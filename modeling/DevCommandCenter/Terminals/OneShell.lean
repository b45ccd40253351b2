import DevCommandCenter.Terminals.Owners

/-! When an owner has one shell: when none came between the look-up of a call and its taking one up. -/

namespace DevCommandCenter.Terminals

open Library

section Step

variable {s t : Shells} {call : ShellCall} {draw : ShellDraw} {phase : ShellPhase} {owner : Owner}
  {ptyId other : String}

lemma carries_set_terminal {terminal : ManagedTerminal} :
    Shells.Carries { s with terminals := s.terminals.set ptyId terminal } owner other ↔
      if other = ptyId then
        match owner with
        | .mission id => terminal.missionId = some id
        | .key _ => s.Carries owner other
      else s.Carries owner other := by
  cases owner with
  | mission id =>
      simp only [Shells.Carries, InsertionMap.get?_set]
      split <;> simp
  | key ownerKey => simp [Shells.Carries]

lemma carries_set_headless {terminal : HeadlessManagedTerminal} {uuids : List String} :
    Shells.Carries { s with headless := s.headless.set ptyId terminal, uuids := uuids } owner other ↔
      if other = ptyId then
        match owner with
        | .mission _ => s.Carries owner other
        | .key ownerKey => terminal.ptyOwnerKey = some ownerKey
      else s.Carries owner other := by
  cases owner with
  | mission id => simp [Shells.Carries]
  | key ownerKey =>
      simp only [Shells.Carries, InsertionMap.get?_set]
      split <;> simp

lemma carries_fewer (hgives : call.gives s draw = none)
    (h : ∀ owner ptyId, t.Carries owner ptyId → s.Carries owner ptyId) :
    (∀ owner ptyId, t.Carries owner ptyId → s.Carries owner ptyId ∨
      call.gives s draw = some (owner, ptyId)) ∧
    ∀ owner ptyId, call.gives s draw = some (owner, ptyId) → t.Carries owner ptyId ∧
      ∀ other, s.Carries owner other → other ≠ ptyId → t.Carries owner other := by
  refine ⟨fun owner ptyId hcarries => .inl (h owner ptyId hcarries), fun owner ptyId hgiven => ?_⟩
  rw [hgives] at hgiven
  cases hgiven

lemma spawnHeadlessTerminal_cases {input : TerminalSpawnRequest} {result : Except String String}
    (h : spawnHeadlessTerminal s input draw = some (result, t)) :
    (¬(trim input.cwd ≠ "" ∧ draw.fault = none) ∧ t = s ∧ ∃ error, result = .error error) ∨
      (trim input.cwd ≠ "" ∧ draw.fault = none) ∧ draw.ptyId ∉ s.uuids ∧ result = .ok draw.ptyId ∧
        t = { s with
          headless := s.headless.set draw.ptyId ⟨input.ptyOwnerKey, trim input.cwd⟩
          uuids := draw.ptyId :: s.uuids } := by
  unfold spawnHeadlessTerminal at h
  split at h
  · next hcwd =>
    cases h
    exact .inl ⟨fun hspawns => hspawns.1 hcwd, rfl, _, rfl⟩
  · next hcwd =>
    split at h
    · next fault hfault =>
      cases h
      refine .inl ⟨fun hspawns => ?_, rfl, _, rfl⟩
      rw [hfault] at hspawns
      cases hspawns.2
    · next hfault =>
      split at h
      · cases h
      · next hnew =>
        cases h
        exact .inr ⟨⟨hcwd, hfault⟩, hnew, rfl, rfl⟩

lemma carries_spawned {input : TerminalSpawnRequest}
    (hgives : call.gives s draw = input.ptyOwnerKey.map fun ownerKey => (.key ownerKey, draw.ptyId)) :
    (∀ owner ptyId, Shells.Carries { s with
        headless := s.headless.set draw.ptyId ⟨input.ptyOwnerKey, trim input.cwd⟩
        uuids := draw.ptyId :: s.uuids } owner ptyId → s.Carries owner ptyId ∨
      call.gives s draw = some (owner, ptyId)) ∧
    ∀ owner ptyId, call.gives s draw = some (owner, ptyId) → Shells.Carries { s with
        headless := s.headless.set draw.ptyId ⟨input.ptyOwnerKey, trim input.cwd⟩
        uuids := draw.ptyId :: s.uuids } owner ptyId ∧
      ∀ other, s.Carries owner other → other ≠ ptyId → Shells.Carries { s with
        headless := s.headless.set draw.ptyId ⟨input.ptyOwnerKey, trim input.cwd⟩
        uuids := draw.ptyId :: s.uuids } owner other := by
  rw [hgives]
  constructor
  · intro owner ptyId hcarries
    rw [carries_set_headless] at hcarries
    split at hcarries
    · next heq =>
      cases owner with
      | mission id => exact .inl hcarries
      | key ownerKey =>
          have hkey : input.ptyOwnerKey = some ownerKey := hcarries
          rw [hkey, heq]
          exact .inr rfl
    · exact .inl hcarries
  · intro owner ptyId hgiven
    obtain ⟨ownerKey, hkey, heq⟩ := Option.map_eq_some_iff.mp hgiven
    cases heq
    refine ⟨?_, fun other hcarries hother => ?_⟩
    · rw [carries_set_headless, if_pos rfl]
      exact hkey
    · rw [carries_set_headless, if_neg hother]
      exact hcarries

theorem carries_next (h : call.next s draw = some (t, phase)) :
    (∀ owner ptyId, t.Carries owner ptyId → s.Carries owner ptyId ∨
      call.gives s draw = some (owner, ptyId)) ∧
    ∀ owner ptyId, call.gives s draw = some (owner, ptyId) → t.Carries owner ptyId ∧
      ∀ other, s.Carries owner other → other ≠ ptyId → t.Carries owner other := by
  obtain ⟨operation, before⟩ := call
  cases operation with
  | getOrCreate missionId options =>
      cases before with
      | looking =>
          obtain ⟨found, -, heq⟩ := Option.map_eq_some_iff.mp h
          cases heq
          exact carries_fewer rfl fun _ _ => id
      | spawning =>
          refine carries_fewer rfl fun owner ptyId hcarries => ?_
          simp only [ShellCall.next, Option.some.injEq, Prod.mk.injEq] at h
          rw [← h.1] at hcarries
          unfold terminalSpawn at hcarries
          split at hcarries
          · exact hcarries
          · exact hcarries
          · rw [carries_set_terminal] at hcarries
            split at hcarries
            · cases owner with
              | mission id => cases hcarries
              | key ownerKey => exact hcarries
            · exact hcarries
      | taking taken =>
          cases hget : s.terminals.get? taken with
          | none =>
              simp only [ShellCall.next, hget, Option.some.injEq, Prod.mk.injEq] at h
              refine carries_fewer (by simp [ShellCall.gives, InsertionMap.contains, hget]) ?_
              rw [← h.1]
              exact fun _ _ => id
          | some terminal =>
              simp only [ShellCall.next, hget, Option.some.injEq, Prod.mk.injEq] at h
              have hgives : ShellCall.gives s ⟨.getOrCreate missionId options, .taking taken⟩ draw =
                  some (.mission missionId, taken) := by
                simp [ShellCall.gives, InsertionMap.contains, hget]
              rw [hgives, ← h.1]
              constructor
              · intro owner ptyId hcarries
                rw [carries_set_terminal] at hcarries
                split at hcarries
                · next heq =>
                  cases owner with
                  | mission id =>
                      have hid : some missionId = some id := hcarries
                      cases hid
                      exact .inr (heq ▸ rfl)
                  | key ownerKey => exact .inl hcarries
                · exact .inl hcarries
              · rintro owner ptyId ⟨⟩
                refine ⟨?_, fun other hcarries hother => ?_⟩
                · rw [carries_set_terminal, if_pos rfl]
                · rw [carries_set_terminal, if_neg hother]
                  exact hcarries
      | returned result => cases h
  | getOrCreateByOwner ownerKey input =>
      cases before with
      | looking =>
          obtain ⟨found, -, heq⟩ := Option.map_eq_some_iff.mp h
          cases heq
          exact carries_fewer rfl fun _ _ => id
      | spawning =>
          obtain ⟨⟨result, after⟩, hspawn, heq⟩ := Option.map_eq_some_iff.mp h
          cases heq
          rcases spawnHeadlessTerminal_cases hspawn with ⟨hfails, rfl, -⟩ | ⟨hspawns, -, -, rfl⟩
          · exact carries_fewer (if_neg hfails) fun _ _ => id
          · exact carries_spawned (if_pos hspawns)
      | taking taken =>
          refine carries_fewer rfl ?_
          simp only [ShellCall.next] at h
          split at h <;> cases h <;> exact fun _ _ => id
      | returned result => cases h
  | spawnHeadless input =>
      cases before with
      | looking =>
          obtain ⟨⟨result, after⟩, hspawn, heq⟩ := Option.map_eq_some_iff.mp h
          cases heq
          rcases spawnHeadlessTerminal_cases hspawn with ⟨hfails, rfl, -⟩ | ⟨hspawns, -, -, rfl⟩
          · exact carries_fewer (if_neg hfails) fun _ _ => id
          · exact carries_spawned (if_pos hspawns)
      | _ => cases h
  | kill killed =>
      cases before with
      | looking =>
          cases h
          refine carries_fewer rfl fun owner ptyId hcarries => ?_
          cases owner with
          | mission id =>
              obtain ⟨terminal, hget, hmission⟩ := hcarries
              rw [InsertionMap.get?_delete, Option.ite_none_left_eq_some] at hget
              exact ⟨terminal, hget.2, hmission⟩
          | key ownerKey => exact hcarries
      | _ => cases h
  | killHeadless killed =>
      cases before with
      | looking =>
          cases h
          refine carries_fewer rfl fun owner ptyId hcarries => ?_
          cases owner with
          | mission id => exact hcarries
          | key ownerKey =>
              obtain ⟨terminal, hget, hkey⟩ := hcarries
              rw [InsertionMap.get?_delete, Option.ite_none_left_eq_some] at hget
              exact ⟨terminal, hget.2, hkey⟩
      | _ => cases h
  | killAll =>
      cases before with
      | looking =>
          cases h
          refine carries_fewer rfl fun owner ptyId hcarries => ?_
          cases owner with
          | mission id =>
              obtain ⟨terminal, hget, -⟩ := hcarries
              cases hget
          | key ownerKey => exact hcarries
      | _ => cases h

def ShellCall.HasSpawned (s : Shells) (call : ShellCall) : Prop :=
  ∀ ownerKey input ptyId, call.operation = .getOrCreateByOwner ownerKey input → call.phase = .taking ptyId →
    ptyId ∈ s.uuids ∧ ∀ terminal, s.headless.get? ptyId = some terminal → terminal.ptyOwnerKey = some ownerKey

lemma headless_next (h : call.next s draw = some (t, phase)) (hdrawn : ptyId ∈ s.uuids) :
    ptyId ∈ t.uuids ∧ ∀ terminal, t.headless.get? ptyId = some terminal →
      s.headless.get? ptyId = some terminal := by
  have hsame : t.headless = s.headless → t.uuids = s.uuids → ptyId ∈ t.uuids ∧
      ∀ terminal, t.headless.get? ptyId = some terminal → s.headless.get? ptyId = some terminal := by
    intro hheadless huuids
    rw [hheadless, huuids]
    exact ⟨hdrawn, fun _ => id⟩
  have hspawned : ∀ {input result after}, spawnHeadlessTerminal s input draw = some (result, after) →
      ptyId ∈ after.uuids ∧ ∀ terminal, after.headless.get? ptyId = some terminal →
        s.headless.get? ptyId = some terminal := by
    intro input result after hspawn
    rcases spawnHeadlessTerminal_cases hspawn with ⟨-, rfl, -⟩ | ⟨-, hnew, -, rfl⟩
    · exact ⟨hdrawn, fun _ => id⟩
    · refine ⟨List.mem_cons_of_mem _ hdrawn, fun terminal hget => ?_⟩
      rwa [InsertionMap.get?_set, if_neg] at hget
      rintro rfl
      exact hnew hdrawn
  obtain ⟨operation, before⟩ := call
  cases operation with
  | getOrCreate missionId options =>
      cases before with
      | looking =>
          obtain ⟨found, -, heq⟩ := Option.map_eq_some_iff.mp h
          cases heq
          exact hsame rfl rfl
      | spawning =>
          simp only [ShellCall.next, Option.some.injEq, Prod.mk.injEq] at h
          rw [← h.1]
          unfold terminalSpawn
          split <;> exact ⟨hdrawn, fun _ => id⟩
      | taking taken =>
          simp only [ShellCall.next] at h
          split at h <;> cases h <;> exact hsame rfl rfl
      | returned result => cases h
  | getOrCreateByOwner ownerKey input =>
      cases before with
      | looking =>
          obtain ⟨found, -, heq⟩ := Option.map_eq_some_iff.mp h
          cases heq
          exact hsame rfl rfl
      | spawning =>
          obtain ⟨⟨result, after⟩, hspawn, heq⟩ := Option.map_eq_some_iff.mp h
          cases heq
          exact hspawned hspawn
      | taking taken =>
          simp only [ShellCall.next] at h
          split at h <;> cases h <;> exact hsame rfl rfl
      | returned result => cases h
  | spawnHeadless input =>
      cases before with
      | looking =>
          obtain ⟨⟨result, after⟩, hspawn, heq⟩ := Option.map_eq_some_iff.mp h
          cases heq
          exact hspawned hspawn
      | _ => cases h
  | killHeadless killed =>
      cases before with
      | looking =>
          cases h
          refine ⟨hdrawn, fun terminal hget => ?_⟩
          rw [InsertionMap.get?_delete, Option.ite_none_left_eq_some] at hget
          exact hget.2
      | _ => cases h
  | _ =>
      cases before with
      | looking =>
          cases h
          exact hsame rfl rfl
      | _ => cases h

lemma hasSpawned_next (h : call.next s draw = some (t, phase)) :
    ShellCall.HasSpawned t ⟨call.operation, phase⟩ := by
  obtain ⟨operation, before⟩ := call
  rintro ownerKey input ptyId rfl hphase
  have hphase : phase = .taking ptyId := hphase
  subst hphase
  cases before with
  | looking =>
      obtain ⟨found, -, heq⟩ := Option.map_eq_some_iff.mp h
      cases found <;> cases heq
  | spawning =>
      obtain ⟨⟨result, after⟩, hspawn, heq⟩ := Option.map_eq_some_iff.mp h
      obtain ⟨rfl, hspawned⟩ := Prod.mk.inj heq
      rcases spawnHeadlessTerminal_cases hspawn with ⟨-, -, error, rfl⟩ | ⟨-, -, rfl, rfl⟩
      · cases hspawned
      · cases hspawned
        refine ⟨List.mem_cons_self, fun terminal hget => ?_⟩
        rw [InsertionMap.get?_set, if_pos rfl] at hget
        cases hget
        rfl
  | taking taken =>
      simp only [ShellCall.next] at h
      split at h <;> cases h
  | returned result => cases h

lemma carries_shell (hspawned : call.HasSpawned s) (h : call.next s draw = some (t, phase))
    (hshell : ShellCall.shell ⟨call.operation, phase⟩ = some (owner, ptyId)) : t.Carries owner ptyId := by
  obtain ⟨operation, before⟩ := call
  have hfound : ∀ {ν : Type} {m : InsertionMap String ν} {p : ν → Bool} {ptyId : String},
      findIn m draw.found p = some (some ptyId) → ∃ value, m.get? ptyId = some value ∧ p value = true := by
    intro ν m p ptyId hfind
    unfold findIn at hfind
    split at hfind
    · split at hfind
      · next hany =>
        cases hfind
        cases hget : m.get? draw.found with
        | none =>
            rw [hget] at hany
            cases hany
        | some value =>
            rw [hget] at hany
            exact ⟨value, rfl, hany⟩
      · cases hfind
    · cases hfind
  cases operation with
  | getOrCreate missionId options =>
      cases before with
      | looking =>
          obtain ⟨found, hfind, heq⟩ := Option.map_eq_some_iff.mp h
          obtain ⟨rfl, rfl⟩ := Prod.mk.inj heq
          cases found with
          | none => cases hshell
          | some ptyId =>
              cases hshell
              obtain ⟨terminal, hget, hmission⟩ := hfound hfind
              exact ⟨terminal, hget, of_decide_eq_true hmission⟩
      | spawning =>
          simp only [ShellCall.next, Option.some.injEq, Prod.mk.injEq] at h
          rw [← h.2] at hshell
          cases hresult : (terminalSpawn s options draw).1 with
          | ok _ =>
              rw [hresult] at hshell
              cases hshell
          | error _ =>
              rw [hresult] at hshell
              cases hshell
      | taking taken =>
          cases hget : s.terminals.get? taken with
          | none =>
              simp only [ShellCall.next, hget, Option.some.injEq, Prod.mk.injEq] at h
              rw [← h.2] at hshell
              cases hshell
          | some terminal =>
              simp only [ShellCall.next, hget, Option.some.injEq, Prod.mk.injEq] at h
              rw [← h.2] at hshell
              cases hshell
              rw [← h.1, carries_set_terminal, if_pos rfl]
      | returned result => cases h
  | getOrCreateByOwner ownerKey input =>
      cases before with
      | looking =>
          obtain ⟨found, hfind, heq⟩ := Option.map_eq_some_iff.mp h
          obtain ⟨rfl, rfl⟩ := Prod.mk.inj heq
          cases found with
          | none => cases hshell
          | some ptyId =>
              cases hshell
              obtain ⟨terminal, hget, hkey⟩ := hfound hfind
              exact ⟨terminal, hget, of_decide_eq_true hkey⟩
      | spawning =>
          obtain ⟨⟨result, after⟩, -, heq⟩ := Option.map_eq_some_iff.mp h
          obtain ⟨-, rfl⟩ := Prod.mk.inj heq
          cases result <;> cases hshell
      | taking taken =>
          simp only [ShellCall.next] at h
          split at h
          · next hthere =>
            cases h
            cases hshell
            obtain ⟨terminal, hget⟩ := Option.isSome_iff_exists.mp hthere
            exact ⟨terminal, hget, (hspawned ownerKey input ptyId rfl rfl).2 terminal hget⟩
          · cases h
            cases hshell
      | returned result => cases h
  | _ => cases phase <;> cases hshell

lemma ShellCall.HasSpawned.next (hspawned : call.HasSpawned s) {moved : ShellCall}
    (h : moved.next s draw = some (t, phase)) : call.HasSpawned t := by
  intro ownerKey input ptyId hoperation hphase
  obtain ⟨hdrawn, hkey⟩ := hspawned ownerKey input ptyId hoperation hphase
  obtain ⟨hdrawn', hstays⟩ := headless_next h hdrawn
  exact ⟨hdrawn', fun terminal hget => hkey terminal (hstays terminal hget)⟩

theorem oneShell_next (hone : s.OneShell) (h : call.next s draw = some (t, phase)) :
    t.OneShell ↔ ∀ owner ptyId, call.gives s draw = some (owner, ptyId) →
      ∀ other, s.Carries owner other → other = ptyId := by
  obtain ⟨hback, hgiven⟩ := carries_next h
  constructor
  · intro hone' owner ptyId hgives other hother
    by_contra hne
    obtain ⟨hcarries, hstays⟩ := hgiven owner ptyId hgives
    exact hne (hone' owner other ptyId (hstays other hother hne) hcarries)
  · intro hfree owner a b ha hb
    rcases hback owner a ha with hsa | hga
    · rcases hback owner b hb with hsb | hgb
      · exact hone owner a b hsa hsb
      · exact hfree owner b hgb a hsa
    · rcases hback owner b hb with hsb | hgb
      · exact (hfree owner a hga b hsb).symm
      · cases hga.symm.trans hgb
        rfl

end Step

section Runs

abbrev ShellStep := System.Taken (Pool Shells ShellCall) (PoolAction ShellCall ShellDraw) Unit

def ReturnsTheShell (taken : ShellStep) : Prop :=
  ∀ i draw, taken.action = .advance i draw → ∀ call, taken.after.calls[i]? = some call →
    ∀ owner ptyId, call.shell = some (owner, ptyId) →
      ∀ other, taken.after.shared.Carries owner other → other = ptyId

def StillFindsNone (taken : ShellStep) : Prop :=
  ∀ i draw, taken.action = .advance i draw → ∀ call, taken.before.calls[i]? = some call →
    ∀ owner ptyId, call.gives taken.before.shared draw = some (owner, ptyId) →
      ∀ other, taken.before.shared.Carries owner other → other = ptyId

variable {s : Pool Shells ShellCall} {history : List ShellStep}

lemma shells_advance {s t : Pool Shells ShellCall} {i : ℕ} {draw : ShellDraw} {answer : Unit}
    (h : shells.step s (.advance i draw) = some (answer, t)) :
    ∃ call, s.calls[i]? = some call ∧ ∃ shared phase, call.next s.shared draw = some (shared, phase) ∧
      t = { shared := shared, calls := s.calls.set i ⟨call.operation, phase⟩ } := by
  obtain ⟨call, hcall, shared, call', hnext, rfl⟩ := pool_advance.mp h
  obtain ⟨⟨shared', phase⟩, hnext', heq⟩ := Option.map_eq_some_iff.mp hnext
  cases heq
  exact ⟨call, hcall, shared', phase, hnext', rfl⟩

lemma hasSpawned_reachable (h : System.Reachable shells s) : ∀ call ∈ s.calls, call.HasSpawned s.shared := by
  induction h with
  | start => exact nofun
  | @step s t action answer _ hstep ih =>
      cases action with
      | enter call =>
          obtain ⟨hbegins, rfl⟩ := pool_enter.mp hstep
          intro other hother
          rcases List.mem_append.mp hother with hbefore | hnew
          · exact ih other hbefore
          · rw [List.mem_singleton.mp hnew]
            intro ownerKey input ptyId _ hphase
            rw [ShellCall.begins, hphase] at hbegins
            cases hbegins
      | advance i draw =>
          obtain ⟨call, hcall, shared, phase, hnext, rfl⟩ := shells_advance hstep
          intro other hother
          rcases List.mem_or_eq_of_mem_set hother with hbefore | rfl
          · exact (ih other hbefore).next hnext
          · exact hasSpawned_next hnext

lemma oneShell_step {before after : Pool Shells ShellCall} {action : PoolAction ShellCall ShellDraw}
    {answer : Unit} (hreachable : System.Reachable shells before)
    (hstep : shells.step before action = some (answer, after)) (hone : before.shared.OneShell) :
    (after.shared.OneShell ↔ StillFindsNone ⟨before, action, answer, after⟩) ∧
      (after.shared.OneShell → ReturnsTheShell ⟨before, action, answer, after⟩) := by
  cases action with
  | enter call =>
      obtain ⟨-, rfl⟩ := pool_enter.mp hstep
      refine ⟨⟨fun _ i draw haction => ?_, fun _ => hone⟩, fun _ i draw haction => ?_⟩
      · cases haction
      · cases haction
  | advance i draw =>
      obtain ⟨call, hcall, shared, phase, hnext, rfl⟩ := shells_advance hstep
      have hiff := oneShell_next hone hnext
      constructor
      · refine hiff.trans ⟨?_, fun h => h i draw rfl call hcall⟩
        rintro h _ _ ⟨⟩ call' hcall'
        cases hcall.symm.trans hcall'
        exact h
      · rintro hone' _ _ ⟨⟩ call' hcall' owner ptyId hshell other hother
        have hset : (before.calls.set i ⟨call.operation, phase⟩)[i]? = some ⟨call.operation, phase⟩ :=
          List.getElem?_set_self (List.getElem?_eq_some_iff.mp hcall).1
        cases hset.symm.trans hcall'
        have hspawned := hasSpawned_reachable hreachable call (List.mem_of_getElem? hcall)
        exact hone' owner other ptyId hother (carries_shell hspawned hnext hshell)

theorem one_shell_iff (h : System.History shells history s) :
    (∀ taken ∈ history, taken.after.shared.OneShell ∧ ReturnsTheShell taken) ↔
      ∀ taken ∈ history, StillFindsNone taken := by
  have hstart : shells.start.shared.OneShell := by
    rintro (id | ownerKey) a b ⟨terminal, hget, -⟩ <;> cases hget
  suffices hsuff : ((∀ taken ∈ history, taken.after.shared.OneShell ∧ ReturnsTheShell taken) ↔
      ∀ taken ∈ history, StillFindsNone taken) ∧
      ((∀ taken ∈ history, StillFindsNone taken) → s.shared.OneShell) from hsuff.1
  induction h with
  | start => exact ⟨⟨fun _ => nofun, fun _ => nofun⟩, fun _ => hstart⟩
  | @step history s t action answer hbefore hstep ih =>
      obtain ⟨ihiff, ihone⟩ := ih
      have hlast := oneShell_step hbefore.reachable hstep
      constructor
      · constructor
        · intro hgood
          have hbefore' := ihiff.mp fun taken htaken => hgood taken (List.mem_append_left _ htaken)
          intro taken htaken
          rcases List.mem_append.mp htaken with hold | hnew
          · exact hbefore' taken hold
          · have hnow := hgood taken htaken
            cases List.mem_singleton.mp hnew
            exact (hlast (ihone hbefore')).1.mp hnow.1
        · intro hfinds
          have hbefore' : ∀ taken ∈ history, StillFindsNone taken :=
            fun taken htaken => hfinds taken (List.mem_append_left _ htaken)
          intro taken htaken
          rcases List.mem_append.mp htaken with hold | hnew
          · exact ihiff.mpr hbefore' taken hold
          · have hnow := hfinds taken htaken
            cases List.mem_singleton.mp hnew
            have hone := (hlast (ihone hbefore')).1.mpr hnow
            exact ⟨hone, (hlast (ihone hbefore')).2 hone⟩
      · intro hfinds
        have hbefore' := ihone fun taken htaken => hfinds taken (List.mem_append_left _ htaken)
        exact (hlast hbefore').1.mpr (hfinds _ (List.mem_append_right _ (List.mem_singleton_self _)))

end Runs

section Races

def shellFor (missionId : String) : PoolAction ShellCall ShellDraw :=
  .enter ⟨.getOrCreate missionId ⟨some "/work", none⟩, .looking⟩

def drawing (ptyId : String) : ShellDraw := ⟨ptyId, ptyId, none⟩

def inTurn : List ShellStep × Pool Shells ShellCall :=
  shells.record [shellFor "m", .advance 0 (drawing "pty-a"), .advance 0 (drawing "pty-a"),
    .advance 0 (drawing "pty-a"), shellFor "m", .advance 1 (drawing "pty-a")]

def racing : List ShellStep × Pool Shells ShellCall :=
  shells.record [shellFor "m", shellFor "m", .advance 0 (drawing "pty-a"), .advance 1 (drawing "pty-b"),
    .advance 0 (drawing "pty-a"), .advance 1 (drawing "pty-b"), .advance 0 (drawing "pty-a"),
    .advance 1 (drawing "pty-b")]

theorem inTurn_one_shell : inTurn.2.calls.map ShellCall.shell =
      [some (.mission "m", "pty-a"), some (.mission "m", "pty-a")] ∧
    ((∀ taken ∈ inTurn.1, taken.after.shared.OneShell ∧ ReturnsTheShell taken) ↔
      ∀ taken ∈ inTurn.1, StillFindsNone taken) :=
  ⟨rfl, one_shell_iff (shells.history_record _)⟩

theorem racing_two_shells : ¬∀ history s, System.History shells history s →
    ∀ taken ∈ history, taken.after.shared.OneShell ∧ ReturnsTheShell taken := by
  intro h
  have htwo : ∃ taken ∈ racing.1,
      (taken.after.shared.terminals.get? "pty-a").map ManagedTerminal.missionId = some (some "m") ∧
      (taken.after.shared.terminals.get? "pty-b").map ManagedTerminal.missionId = some (some "m") := by
    decide +kernel
  obtain ⟨taken, htaken, ha, hb⟩ := htwo
  obtain ⟨a, hget, hmission⟩ := Option.map_eq_some_iff.mp ha
  obtain ⟨b, hget', hmission'⟩ := Option.map_eq_some_iff.mp hb
  have hone := (h _ _ (shells.history_record _) taken htaken).1
  exact absurd (hone (.mission "m") "pty-a" "pty-b" ⟨a, hget, hmission⟩ ⟨b, hget', hmission'⟩) (by decide)

end Races

end DevCommandCenter.Terminals
