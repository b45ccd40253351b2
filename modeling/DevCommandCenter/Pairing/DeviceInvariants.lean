import DevCommandCenter.Pairing.Devices

/-! The invariants of the paired devices, and the schedules that keep them: those in which what a call
has checked still holds when it writes. -/

namespace DevCommandCenter.Pairing

open Library

structure DevicesSound (devices : PairedDevices) : Prop where
  limit : activeDeviceCount devices ≤ maxActiveDevices
  keys : ∀ a ∈ devices.rows, ∀ b ∈ devices.rows, a.active = true → b.active = true →
    a.noisePublicKey ≠ none → a.noisePublicKey = b.noisePublicKey → a = b
  tokens : ∀ a ∈ devices.rows, ∀ b ∈ devices.rows,
    a.pushToken ≠ none → a.pushToken = b.pushToken → a = b
  revoked : ∀ a ∈ devices.rows, a.active = false → a.pushToken = none

variable {devices devices' : PairedDevices}

lemma DevicesSound.updateWhere (h : DevicesSound devices) {p : PairedDevice → Bool}
    {f : PairedDevice → PairedDevice} {hf : ∀ r, (f r).deviceId = r.deviceId}
    (hactive : ∀ r, (f r).active = true → r.active = true)
    (hkey : ∀ r, (f r).noisePublicKey = r.noisePublicKey)
    (htoken : ∀ r, (f r).pushToken = none ∨ (f r).pushToken = r.pushToken)
    (hrevoked : ∀ r, (f r).active = false → (f r).pushToken = none ∨ r.active = false) :
    DevicesSound (devices.updateWhere p f hf) := by
  have hstep : ∀ r ∈ (devices.updateWhere p f hf).rows, ∃ old ∈ devices.rows,
      r.deviceId = old.deviceId ∧ (r.active = true → old.active = true) ∧
      r.noisePublicKey = old.noisePublicKey ∧
      (r.pushToken = none ∨ r.pushToken = old.pushToken) ∧
      (r.active = false → r.pushToken = none ∨ old.active = false) := by
    intro r hr
    obtain ⟨old, hold, rfl⟩ := KeyedRows.mem_updateWhere.mp hr
    refine ⟨old, hold, ?_⟩
    split
    · exact ⟨hf old, hactive old, hkey old, htoken old, hrevoked old⟩
    · exact ⟨rfl, id, rfl, .inr rfl, fun h => .inr h⟩
  have hsame : ∀ a ∈ (devices.updateWhere p f hf).rows, ∀ b ∈ (devices.updateWhere p f hf).rows,
      a.deviceId = b.deviceId → a = b := by
    intro a ha b hb hid
    exact KeyedRows.eq_of_key ha hb hid
  refine ⟨?_, ?_, ?_, ?_⟩
  · refine Nat.le_trans ?_ h.limit
    simp only [activeDeviceCount, KeyedRows.updateWhere, List.countP_map]
    apply List.countP_mono_left
    intro r _ hr
    simp only [Function.comp_apply] at hr
    split at hr
    · exact hactive r hr
    · exact hr
  · intro a ha b hb haactive hbactive hsome hkeys
    obtain ⟨olda, holda, hida, hacta, hkeya, -⟩ := hstep a ha
    obtain ⟨oldb, holdb, hidb, hactb, hkeyb, -⟩ := hstep b hb
    rw [hkeya] at hsome hkeys
    rw [hkeyb] at hkeys
    have := h.keys olda holda oldb holdb (hacta haactive) (hactb hbactive) hsome hkeys
    exact hsame a ha b hb (by rw [hida, hidb, this])
  · intro a ha b hb hsome htokens
    obtain ⟨olda, holda, hida, -, -, htoka, -⟩ := hstep a ha
    obtain ⟨oldb, holdb, hidb, -, -, htokb, -⟩ := hstep b hb
    have htoka := htoka.resolve_left hsome
    have htokb := htokb.resolve_left (htokens ▸ hsome)
    have := h.tokens olda holda oldb holdb (htoka ▸ hsome) (by rw [← htoka, htokens, htokb])
    exact hsame a ha b hb (by rw [hida, hidb, this])
  · intro a ha hinactive
    obtain ⟨old, hold, -, -, -, htok, hrev⟩ := hstep a ha
    rcases hrev hinactive with hnone | hold'
    · exact hnone
    · rcases htok with hnone | heq
      · exact hnone
      · rw [heq, h.revoked old hold hold']

lemma DevicesSound.rename (h : DevicesSound devices) (phone : RelayPhone) (deviceId now : String) :
    DevicesSound (rename devices phone deviceId now) :=
  h.updateWhere (fun _ hr => hr) (fun _ => rfl) (fun _ => .inr rfl) fun _ hr => .inr hr

lemma DevicesSound.revoke (h : DevicesSound devices) (deviceId now : String) :
    DevicesSound (revoke devices deviceId now) := by
  refine h.updateWhere ?_ (fun _ => rfl) (fun _ => .inl rfl) fun _ _ => .inl rfl
  intro r hr
  cases hr

lemma DevicesSound.withoutToken (h : DevicesSound devices) {p : PairedDevice → Bool} :
    DevicesSound (devices.updateWhere p PairedDevice.withoutToken fun _ => rfl) :=
  h.updateWhere (fun _ hr => hr) (fun _ => rfl) (fun _ => .inl rfl) fun _ _ => .inl rfl

def mayInsert (devices : PairedDevices) (phone : RelayPhone) : Bool :=
  decide (activeDeviceCount devices < maxActiveDevices) &&
    devices.rows.all fun device =>
      !device.active || decide (device.noisePublicKey ≠ some phone.publicKey)

def mayStore (devices : PairedDevices) (lease : PushLease) : Bool :=
  devices.rows.all fun device => decide (device.deviceId ≠ lease.deviceId) ||
    (device.active && devices.rows.all fun other =>
      decide (other.pushToken = some lease.token → other.deviceId = lease.deviceId))

def checkStillHolds (s : Pool PairedDevices PairingCall) :
    PoolAction PairingCall StatementInput → Bool
  | .advance i (.runs _ drawnId) =>
      match s.calls[i]? with
      | some (.inserting phone) =>
          decide (∃ device ∈ s.shared.rows, device.deviceId = drawnId) || mayInsert s.shared phone
      | some (.storingToken lease _) => mayStore s.shared lease
      | _ => true
  | _ => true

lemma sound_insert {phone : RelayPhone} {drawnId now : String} (h : DevicesSound devices)
    (hinsert : devices.insert (phone.device drawnId now) = some devices') :
    DevicesSound devices' ↔ mayInsert devices phone = true := by
  obtain ⟨hfresh, hrows⟩ := KeyedRows.insert_eq_some.mp hinsert
  have hcount : activeDeviceCount devices' = activeDeviceCount devices + 1 := by
    simp [activeDeviceCount, hrows, RelayPhone.device, PairedDevice.active]
  simp only [mayInsert, Bool.and_eq_true, decide_eq_true_eq, List.all_eq_true, Bool.or_eq_true,
    Bool.not_eq_true']
  have hmem : ∀ device, device ∈ devices'.rows ↔
      device ∈ devices.rows ∨ device = phone.device drawnId now := by
    intro device
    rw [hrows, List.mem_append, List.mem_singleton]
  constructor
  · intro h'
    refine ⟨?_, fun device hdevice => ?_⟩
    · have := h'.limit
      omega
    · cases hactive : device.active with
      | false => exact .inl rfl
      | true =>
          refine .inr fun hkey => hfresh device hdevice ?_
          have := h'.keys device ((hmem device).mpr (.inl hdevice)) _ ((hmem _).mpr (.inr rfl))
            hactive rfl (by simp [hkey]) hkey
          rw [this]
  · rintro ⟨hroom, hkeys⟩
    refine ⟨by omega, ?_, ?_, ?_⟩
    · intro a ha b hb hacta hactb hsome heq
      rcases (hmem a).mp ha with ha | rfl <;> rcases (hmem b).mp hb with hb | rfl
      · exact h.keys a ha b hb hacta hactb hsome heq
      · rcases hkeys a ha with hinactive | hne
        · rw [hacta] at hinactive
          cases hinactive
        · exact absurd heq hne
      · rcases hkeys b hb with hinactive | hne
        · rw [hactb] at hinactive
          cases hinactive
        · exact absurd heq.symm hne
      · rfl
    · intro a ha b hb hsome heq
      rcases (hmem a).mp ha with ha | rfl
      · rcases (hmem b).mp hb with hb | rfl
        · exact h.tokens a ha b hb hsome heq
        · exact absurd heq hsome
      · exact absurd rfl hsome
    · intro a ha hinactive
      rcases (hmem a).mp ha with ha | rfl
      · exact h.revoked a ha hinactive
      · rfl

lemma mem_storeToken {lease : PushLease} {a : PairedDevice}
    (ha : a ∈ (storeToken devices lease).rows) : ∃ old ∈ devices.rows, a.deviceId = old.deviceId ∧
      a.active = old.active ∧ a.noisePublicKey = old.noisePublicKey ∧
      ((a.deviceId = lease.deviceId ∧ a.pushToken = some lease.token) ∨
        (a.deviceId ≠ lease.deviceId ∧ a = old)) := by
  obtain ⟨old, hold, rfl⟩ := KeyedRows.mem_updateWhere.mp ha
  refine ⟨old, hold, ?_⟩
  by_cases hid : old.deviceId = lease.deviceId
  · rw [if_pos (decide_eq_true hid)]
    exact ⟨rfl, rfl, rfl, .inl ⟨hid, rfl⟩⟩
  · rw [if_neg (by simpa using hid)]
    exact ⟨rfl, rfl, rfl, .inr ⟨hid, rfl⟩⟩

lemma stored_mem {lease : PushLease} {a : PairedDevice} (ha : a ∈ devices.rows)
    (hid : a.deviceId = lease.deviceId) : { a with
      pushToken := some lease.token
      pushPlatform := lease.platform
      pushTokenExpiresAt := some lease.expiresAt } ∈ (storeToken devices lease).rows :=
  KeyedRows.mem_updateWhere.mpr ⟨a, ha, if_pos (decide_eq_true hid)⟩

lemma kept_mem {lease : PushLease} {a : PairedDevice} (ha : a ∈ devices.rows)
    (hid : a.deviceId ≠ lease.deviceId) : a ∈ (storeToken devices lease).rows :=
  KeyedRows.mem_updateWhere.mpr ⟨a, ha, if_neg (by simpa using hid)⟩

lemma mayStore_iff {lease : PushLease} : mayStore devices lease = true ↔
    ∀ device ∈ devices.rows, device.deviceId = lease.deviceId → device.active = true ∧
      ∀ other ∈ devices.rows, other.pushToken = some lease.token →
        other.deviceId = lease.deviceId := by
  simp only [mayStore, List.all_eq_true, Bool.or_eq_true, Bool.and_eq_true, decide_eq_true_eq]
  constructor
  · intro h device hdevice hid
    exact (h device hdevice).resolve_left fun hne => hne hid
  · intro h device hdevice
    by_cases hid : device.deviceId = lease.deviceId
    · exact .inr (h device hdevice hid)
    · exact .inl hid

lemma sound_storeToken {lease : PushLease} (h : DevicesSound devices) :
    DevicesSound (storeToken devices lease) ↔ mayStore devices lease = true := by
  have hsame : ∀ a ∈ (storeToken devices lease).rows, ∀ b ∈ (storeToken devices lease).rows,
      a.deviceId = b.deviceId → a = b := fun a ha b hb hid => KeyedRows.eq_of_key ha hb hid
  rw [mayStore_iff]
  constructor
  · intro h' device hdevice hid
    have hstored := stored_mem hdevice hid
    constructor
    · cases hactive : device.active with
      | true => rfl
      | false => cases h'.revoked _ hstored hactive
    · intro other hother htoken
      by_cases hne : other.deviceId = lease.deviceId
      · exact hne
      · have := h'.tokens _ hstored other (kept_mem hother hne) (by simp) htoken.symm
        rw [← this]
        exact hid
  · intro hmay
    refine ⟨?_, ?_, ?_, ?_⟩
    · refine Nat.le_trans (Nat.le_of_eq ?_) h.limit
      simp only [activeDeviceCount, storeToken, KeyedRows.updateWhere, List.countP_map]
      apply List.countP_congr
      intro r _
      simp only [Function.comp_apply]
      split <;> rfl
    · intro a ha b hb hacta hactb hsome heq
      obtain ⟨olda, holda, hida, hacta', hkeya, -⟩ := mem_storeToken ha
      obtain ⟨oldb, holdb, hidb, hactb', hkeyb, -⟩ := mem_storeToken hb
      rw [hkeya] at hsome heq
      rw [hkeyb] at heq
      rw [hacta'] at hacta
      rw [hactb'] at hactb
      have := h.keys olda holda oldb holdb hacta hactb hsome heq
      exact hsame a ha b hb (by rw [hida, hidb, this])
    · -- a row that keeps the stored token is the leased one
      have hleased : ∀ a ∈ (storeToken devices lease).rows, ∀ b ∈ (storeToken devices lease).rows,
          a.deviceId = lease.deviceId → b.pushToken = some lease.token →
            b.deviceId = lease.deviceId := by
        intro a ha b hb hid htoken
        obtain ⟨olda, holda, hida, -⟩ := mem_storeToken ha
        obtain ⟨oldb, holdb, hidb, -, -, ⟨hidb', -⟩ | ⟨-, rfl⟩⟩ := mem_storeToken hb
        · exact hidb'
        · exact (hmay olda holda (hida ▸ hid)).2 b holdb htoken
      intro a ha b hb hsome heq
      obtain ⟨olda, holda, -, -, -, ⟨hida, htoka⟩ | ⟨hnea, rfl⟩⟩ := mem_storeToken ha
      · exact hsame a ha b hb (hida.trans (hleased a ha b hb hida (heq ▸ htoka)).symm)
      · obtain ⟨oldb, holdb, -, -, -, ⟨hidb, htokb⟩ | ⟨hneb, rfl⟩⟩ := mem_storeToken hb
        · exact absurd (hleased b hb a ha hidb (heq.trans htokb)) hnea
        · exact h.tokens a holda b holdb hsome heq
    · intro a ha hinactive
      obtain ⟨old, hold, hid, hact, -, ⟨hida, -⟩ | ⟨-, rfl⟩⟩ := mem_storeToken ha
      · have := (hmay old hold (hid ▸ hida)).1
        rw [← hact, hinactive] at this
        cases this
      · exact h.revoked a hold hinactive

theorem statement_sound {s t : Pool PairedDevices PairingCall}
    {action : PoolAction PairingCall StatementInput} {initial : PairedDevices}
    (h : DevicesSound s.shared) (hstep : (pairing initial).step s action = some ((), t)) :
    DevicesSound t.shared ↔ checkStillHolds s action = true := by
  cases action with
  | enter call =>
      obtain ⟨-, rfl⟩ := pool_enter.mp hstep
      simp [checkStillHolds, h]
  | advance i input =>
      obtain ⟨call, hcall, shared, call', hnext, rfl⟩ := pool_advance.mp hstep
      dsimp only
      cases input with
      | fails =>
          have hkept : shared = s.shared := by
            cases call <;> cases hnext <;> rfl
          simp [checkStillHolds, hkept, h]
      | runs now drawnId =>
          simp only [checkStillHolds, hcall]
          cases call with
          | finding phone =>
              simp only [PairingCall.next, PairingCall.runStatement] at hnext
              split at hnext <;> cases hnext <;> simp [h]
          | updating phone deviceId =>
              cases hnext
              simp [h.rename phone deviceId now]
          | counting phone =>
              simp only [PairingCall.next, PairingCall.runStatement] at hnext
              split at hnext <;> cases hnext <;> simp [h]
          | inserting phone =>
              simp only [PairingCall.next, PairingCall.runStatement] at hnext
              split at hnext
              · next devices' hinsert =>
                cases hnext
                rw [sound_insert h hinsert]
                obtain ⟨hfresh, -⟩ := KeyedRows.insert_eq_some.mp hinsert
                have hnone : ¬∃ device ∈ s.shared.rows, device.deviceId = drawnId := by
                  rintro ⟨device, hdevice, hid⟩
                  exact hfresh device hdevice hid
                simp [hnone]
              · next hinsert =>
                cases hnext
                have htaken : ∃ device ∈ s.shared.rows, device.deviceId = drawnId :=
                  KeyedRows.insert_eq_none.mp hinsert
                simp [h, htaken]
          | revoking deviceId =>
              cases hnext
              simp [h.revoke deviceId now]
          | readingToken lease =>
              simp only [PairingCall.next, PairingCall.runStatement] at hnext
              split at hnext <;> cases hnext <;> simp [h]
          | takingToken lease previous =>
              cases hnext
              simp [takeToken, h.withoutToken]
          | storingToken lease previous =>
              cases hnext
              exact sound_storeToken h
          | clearingToken deviceId =>
              cases hnext
              simp [clearToken, h.withoutToken]
          | returned result => cases hnext

/-- The invariants hold in every state of a run if and only if each write that rests on an earlier
check finds that it still holds. -/
theorem paired_devices_sound_iff {initial : PairedDevices} (hinitial : DevicesSound initial)
    {s : Pool PairedDevices PairingCall}
    {events : List (PoolAction PairingCall StatementInput × Unit)} :
    (pairing initial).RunIn (fun s => DevicesSound s.shared) (pairing initial).start events s ↔
      ((pairing initial).restrict checkStillHolds).Run (pairing initial).start events s :=
  System.runIn_iff_restrict (fun _ _ _ _ hs hstep => statement_sound hs hstep) hinitial

lemma sound_empty : DevicesSound .empty where
  limit := by simp [activeDeviceCount, KeyedRows.empty]
  keys := by simp [KeyedRows.empty]
  tokens := by simp [KeyedRows.empty]
  revoked := by simp [KeyedRows.empty]

def demoPairing : System (Pool PairedDevices PairingCall) (PoolAction PairingCall StatementInput) Unit :=
  pairing .empty

def demoPhone (key : UInt8) : PoolAction PairingCall StatementInput :=
  .enter (registerRelayDevice [key] "phone" none)

def demoStatement (call : ℕ) : PoolAction PairingCall StatementInput :=
  .advance call (.runs "t1" (toString call))

def demoPairs : List (PoolAction PairingCall StatementInput) :=
  [demoPhone 1, demoStatement 0, demoStatement 0, demoStatement 0]

theorem paired_devices_sound_iff_demo :
    ∃ events, (demoPairing.RunIn (fun s => DevicesSound s.shared) demoPairing.start events
        (demoPairing.exec demoPairing.start demoPairs) ↔
      (demoPairing.restrict checkStillHolds).Run demoPairing.start events
        (demoPairing.exec demoPairing.start demoPairs)) ∧
      (demoPairing.exec demoPairing.start demoPairs).shared.rows.length = 1 := by
  obtain ⟨events, -⟩ := demoPairing.run_exec demoPairing.start demoPairs
  exact ⟨events, paired_devices_sound_iff sound_empty, by decide +kernel⟩

def demoPairsTwice : List (PoolAction PairingCall StatementInput) :=
  [demoPhone 1, demoPhone 1, demoStatement 0, demoStatement 1, demoStatement 0, demoStatement 1,
    demoStatement 0, demoStatement 1]

theorem not_paired_devices_sound_demo :
    demoPairing.Reachable (demoPairing.exec demoPairing.start demoPairsTwice) ∧
      ¬DevicesSound (demoPairing.exec demoPairing.start demoPairsTwice).shared := by
  refine ⟨System.Reachable.start.exec _, fun h => ?_⟩
  have hkeys := h.keys
  revert hkeys
  decide +kernel

end DevCommandCenter.Pairing
