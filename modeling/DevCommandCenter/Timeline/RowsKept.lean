import DevCommandCenter.Timeline.Frames

/-! The rows of every turn: each assistant row is its turn's current row or listed for the turn. -/

namespace DevCommandCenter.Timeline

open Library

section Listing

variable {byTurn : List (String × List ℕ)} {turnId : String} {f : List ℕ → List ℕ}

lemma listing_append_of_notMem (h : turnId ∉ byTurn.map Prod.fst) (rows : List ℕ) (turn : String) :
    listing (byTurn ++ [(turnId, rows)]) turn = if turn = turnId then rows else listing byTurn turn := by
  induction byTurn with
  | nil =>
      by_cases hturn : turn = turnId
      · simp [listing, hturn]
      · simp [listing, hturn, Ne.symm hturn]
  | cons entry byTurn ih =>
      obtain ⟨hentry, hrest⟩ := not_or.mp (List.mem_cons.not.mp h)
      simp only [listing, List.cons_append, List.find?_cons] at ih ⊢
      by_cases hturn : entry.1 = turn
      · have hne : turn ≠ turnId := fun heq => hentry (heq ▸ hturn.symm)
        simp [hturn, hne]
      · simp only [hturn, decide_false]
        exact ih hrest

lemma listing_modifyFirst (h : turnId ∈ byTurn.map Prod.fst) (turn : String) :
    listing (modifyFirst (fun (turn, _) => turn = turnId) (fun (turn, rows) => (turn, f rows)) byTurn)
      turn = if turn = turnId then f (listing byTurn turnId) else listing byTurn turn := by
  induction byTurn with
  | nil => cases h
  | cons entry byTurn ih =>
      obtain ⟨first, rows⟩ := entry
      by_cases hfirst : first = turnId
      · subst hfirst
        by_cases hturn : turn = first
        · simp [modifyFirst, listing, hturn]
        · simp [modifyFirst, listing, hturn, Ne.symm hturn]
      · have hmem : turnId ∈ byTurn.map Prod.fst :=
          (List.mem_cons.mp h).resolve_left (Ne.symm hfirst)
        simp only [listing, modifyFirst, hfirst, decide_false, Bool.false_eq_true, if_false,
          List.find?_cons] at ih ⊢
        by_cases hturn : first = turn
        · have hne : turn ≠ turnId := fun heq => hfirst (hturn.trans heq)
          simp [hturn, hne]
        · simp only [hturn, decide_false]
          exact ih hmem

lemma listing_relist (byTurn : List (String × List ℕ)) (turnId : String) (f : List ℕ → List ℕ)
    (turn : String) : listing (relist byTurn turnId f) turn =
      if turn = turnId then f (listing byTurn turnId) else listing byTurn turn := by
  unfold relist
  split
  · next hany =>
      obtain ⟨entry, hentry, hturn⟩ := List.any_eq_true.mp hany
      exact listing_modifyFirst (List.mem_map.mpr ⟨entry, hentry, of_decide_eq_true hturn⟩) turn
  · next hany =>
      have hnone : turnId ∉ byTurn.map Prod.fst := by simpa using hany
      have hempty : listing byTurn turnId = [] := by
        rw [listing, List.find?_eq_none.mpr]
        · rfl
        · intro entry hentry heq
          exact hnone (List.mem_map.mpr ⟨entry, hentry, of_decide_eq_true heq⟩)
      rw [listing_append_of_notMem hnone, hempty]

lemma map_fst_modifyFirst (byTurn : List (String × List ℕ)) :
    (modifyFirst (fun (turn, _) => turn = turnId) (fun (turn, rows) => (turn, f rows)) byTurn).map
      Prod.fst = byTurn.map Prod.fst := by
  induction byTurn with
  | nil => rfl
  | cons entry byTurn ih =>
      obtain ⟨first, rows⟩ := entry
      rw [modifyFirst]
      dsimp only
      split
      · rfl
      · rw [List.map_cons, ih, List.map_cons]

lemma relist_keys (h : (byTurn.map Prod.fst).Nodup) :
    ((relist byTurn turnId f).map Prod.fst).Nodup := by
  unfold relist
  split
  · rwa [map_fst_modifyFirst]
  · next hany =>
      have hnone : turnId ∉ byTurn.map Prod.fst := by simpa using hany
      rw [List.map_append]
      refine List.nodup_append.mpr ⟨h, List.nodup_singleton _, fun turn hturn turn' hturn' heq => ?_⟩
      have hlast : turn' = turnId := List.mem_singleton.mp hturn'
      exact hnone (hlast ▸ heq ▸ hturn)

lemma listing_of_mem (h : (byTurn.map Prod.fst).Nodup) {rows : List ℕ}
    (hmem : (turnId, rows) ∈ byTurn) : listing byTurn turnId = rows := by
  induction byTurn with
  | nil => cases hmem
  | cons entry byTurn ih =>
      obtain ⟨hentry, hrest⟩ := List.nodup_cons.mp h
      rcases List.mem_cons.mp hmem with rfl | hmem
      · simp [listing]
      · have hne : entry.1 ≠ turnId := fun heq =>
          hentry (heq ▸ List.mem_map_of_mem hmem)
        simp only [listing, List.find?_cons, hne, decide_false] at ih ⊢
        exact ih hrest hmem

lemma mem_of_listing {i : ℕ} (h : i ∈ listing byTurn turnId) :
    (turnId, listing byTurn turnId) ∈ byTurn := by
  unfold listing at h ⊢
  cases hfind : byTurn.find? fun (turn, _) => turn = turnId with
  | none => simp [hfind] at h
  | some entry =>
      have hturn : entry.1 = turnId := by simpa using List.find?_some hfind
      have hmem := List.mem_of_find?_eq_some hfind
      rw [Option.map_some, Option.getD_some, ← hturn]
      exact hmem

end Listing

namespace Frame

variable {frame : Frame} {turnId messageId : String}

def rows (frame : Frame) (turnId : String) : List ℕ :=
  listing frame.byTurn turnId

def Assistant (frame : Frame) (index : ℕ) (turnId : String) : Prop :=
  ∃ head, frame.heads[index]? = some head ∧ head.role = .assistant ∧ head.turnId = some turnId

structure RowsKept (frame : Frame) : Prop where
  keys : (frame.byTurn.map Prod.fst).Nodup
  bucket : ∀ turnId index, frame.buckets.lookup turnId = some index → frame.Assistant index turnId
  listed : ∀ turnId, ∀ index ∈ frame.rows turnId, frame.Assistant index turnId
  sorted : ∀ turnId, (frame.rows turnId).Pairwise (· < ·)
  unlisted : ∀ turnId index, frame.buckets.lookup turnId = some index → index ∉ frame.rows turnId →
    ∀ other ∈ frame.rows turnId, other < index
  items : ∀ turnId messageId index, frame.items.lookup (turnId, messageId) = some index →
    index ∈ frame.rows turnId
  owned : ∀ index head, frame.heads[index]? = some head → head.role = .assistant →
    ∃ turnId, head.turnId = some turnId ∧
      (frame.buckets.lookup turnId = some index ∨ index ∈ frame.rows turnId)
  cards : ∀ head ∈ frame.heads, head.role = .assistant → head.card = false

def BucketListed (frame : Frame) (turnId : String) : Prop :=
  ∃ index ∈ frame.rows turnId, frame.buckets.lookup turnId = some index

structure OpenListed (frame : Frame) : Prop where
  uncompleted : ∀ turnId messageId index, frame.items.lookup (turnId, messageId) = some index →
    (turnId, messageId) ∉ frame.completedMessages → frame.BucketListed turnId
  active : ∀ turnId active, frame.active.lookup turnId = some active → ∀ index ∈ active,
    index ∈ frame.rows turnId ∧ frame.BucketListed turnId

lemma Assistant.lt {index : ℕ} (h : frame.Assistant index turnId) : index < frame.heads.length := by
  obtain ⟨head, hhead, -⟩ := h
  exact (List.getElem?_eq_some_iff.mp hhead).1

lemma Assistant.push {index : ℕ} (h : frame.Assistant index turnId) (head : RowHead) :
    (frame.push head).Assistant index turnId := by
  obtain ⟨found, hfound, hrest⟩ := h
  refine ⟨found, ?_, hrest⟩
  rw [Frame.push, List.getElem?_append_left (List.getElem?_eq_some_iff.mp hfound).1, hfound]

lemma Assistant.unique {index : ℕ} {turnId' : String} (h : frame.Assistant index turnId)
    (h' : frame.Assistant index turnId') : turnId = turnId' := by
  obtain ⟨head, hhead, -, hturn⟩ := h
  obtain ⟨head', hhead', -, hturn'⟩ := h'
  rw [hhead, Option.some.injEq] at hhead'
  rw [hhead', hturn', Option.some.injEq] at hturn
  exact hturn.symm

lemma getElem?_push_cases {head found : RowHead} {index : ℕ}
    (h : (frame.push head).heads[index]? = some found) :
    frame.heads[index]? = some found ∨ (index = frame.heads.length ∧ found = head) := by
  rw [Frame.push, List.getElem?_append] at h
  split at h
  · exact .inl h
  · next hge =>
      obtain ⟨hlt, hfound⟩ := List.getElem?_eq_some_iff.mp h
      rw [List.length_singleton] at hlt
      refine .inr ⟨by omega, ?_⟩
      rw [← hfound]
      exact List.mem_singleton.mp (List.getElem_mem hlt)

lemma RowsKept.push (h : frame.RowsKept) {head : RowHead} (hrole : head.role ≠ .assistant) :
    (frame.push head).RowsKept where
  keys := h.keys
  bucket turnId index hindex := (h.bucket turnId index hindex).push head
  listed turnId index hindex := (h.listed turnId index hindex).push head
  sorted := h.sorted
  unlisted := h.unlisted
  items := h.items
  owned := by
    intro index found hfound hassistant
    rcases getElem?_push_cases hfound with hold | ⟨-, rfl⟩
    · exact h.owned index found hold hassistant
    · exact absurd hassistant hrole
  cards := by
    intro found hfound hassistant
    rcases List.mem_append.mp hfound with hold | hnew
    · exact h.cards found hold hassistant
    · rw [List.mem_singleton.mp hnew] at hassistant
      exact absurd hassistant hrole

lemma RowsKept.ensure (h : frame.RowsKept) (turnId : String) : (frame.ensure turnId).RowsKept := by
  unfold Frame.ensure
  split
  · exact h
  · next hnone =>
      have hbucket : ∀ turn index, ((frame.push (frame.looseHead turnId)).setBucket turnId
          frame.heads.length).buckets.lookup turn = some index →
            (turn = turnId ∧ index = frame.heads.length) ∨ frame.buckets.lookup turn = some index := by
        intro turn index hindex
        rw [setBucket, Table.lookup_insert_eq] at hindex
        split at hindex
        · next hturn => exact .inl ⟨hturn, (Option.some.inj hindex).symm⟩
        · exact .inr hindex
      have hlast : ∀ turn, ∀ other ∈ frame.rows turn, other < frame.heads.length :=
        fun turn other hother => (h.listed turn other hother).lt
      exact {
        keys := h.keys
        bucket := by
          intro turn index hindex
          rcases hbucket turn index hindex with ⟨rfl, rfl⟩ | hold
          · exact ⟨frame.looseHead turn, by simp [setBucket, Frame.push], rfl, rfl⟩
          · exact (h.bucket turn index hold).push _
        listed := fun turn index hindex => (h.listed turn index hindex).push _
        sorted := h.sorted
        unlisted := by
          intro turn index hindex hnot other hother
          rcases hbucket turn index hindex with ⟨rfl, rfl⟩ | hold
          · exact hlast turn other hother
          · exact h.unlisted turn index hold hnot other hother
        items := h.items
        owned := by
          intro index found hfound hassistant
          rcases getElem?_push_cases hfound with hold | ⟨rfl, rfl⟩
          · obtain ⟨turn, hturn, hown⟩ := h.owned index found hold hassistant
            refine ⟨turn, hturn, hown.imp_left fun hindex => ?_⟩
            rw [setBucket, Table.lookup_insert_eq]
            split
            · next heq =>
                rw [heq, hnone] at hindex
                cases hindex
            · exact hindex
          · refine ⟨turnId, rfl, .inl ?_⟩
            rw [setBucket, Table.lookup_insert_eq, if_pos rfl]
        cards := by
          intro found hfound hassistant
          rcases List.mem_append.mp hfound with hold | hnew
          · exact h.cards found hold hassistant
          · rw [List.mem_singleton.mp hnew]
            rfl }

lemma RowsKept.setBucket (h : frame.RowsKept) {index : ℕ} (hindex : index ∈ frame.rows turnId)
    (hlisted : frame.BucketListed turnId) : (frame.setBucket turnId index).RowsKept := by
  have hbucket : ∀ turn found, (frame.setBucket turnId index).buckets.lookup turn = some found →
      (turn = turnId ∧ found = index) ∨ frame.buckets.lookup turn = some found := by
    intro turn found hfound
    rw [Frame.setBucket, Table.lookup_insert_eq] at hfound
    split at hfound
    · next hturn => exact .inl ⟨hturn, (Option.some.inj hfound).symm⟩
    · exact .inr hfound
  exact {
    keys := h.keys
    bucket := by
      intro turn found hfound
      rcases hbucket turn found hfound with ⟨rfl, rfl⟩ | hold
      · exact h.listed turn found hindex
      · exact h.bucket turn found hold
    listed := h.listed
    sorted := h.sorted
    unlisted := by
      intro turn found hfound hnot
      rcases hbucket turn found hfound with ⟨rfl, rfl⟩ | hold
      · exact absurd hindex hnot
      · exact h.unlisted turn found hold hnot
    items := h.items
    owned := by
      intro row head hhead hassistant
      obtain ⟨turn, hturn, hown⟩ := h.owned row head hhead hassistant
      refine ⟨turn, hturn, ?_⟩
      by_cases heq : turn = turnId
      · subst heq
        obtain ⟨bucket, hmem, hcurrent⟩ := hlisted
        rcases hown with hown | hown
        · rw [hcurrent, Option.some.injEq] at hown
          exact .inr (hown ▸ hmem)
        · exact .inr hown
      · rw [Frame.setBucket, Table.lookup_insert_eq, if_neg heq]
        exact hown
    cards := h.cards }

lemma rows_addMessage (frame : Frame) (turnId messageId : String) (makeCurrent : Bool) (turn : String) :
    (frame.addMessage turnId messageId makeCurrent).rows turn =
      if turn = turnId then frame.listRow turnId frame.heads.length (frame.rows turnId)
      else frame.rows turn := by
  cases makeCurrent <;> exact listing_relist ..

lemma buckets_addMessage (frame : Frame) (turnId messageId : String) (makeCurrent : Bool) :
    (frame.addMessage turnId messageId makeCurrent).buckets =
      if makeCurrent then frame.buckets.insert turnId frame.heads.length else frame.buckets := by
  cases makeCurrent <;> rfl

lemma heads_addMessage (frame : Frame) (turnId messageId : String) (makeCurrent : Bool) :
    (frame.addMessage turnId messageId makeCurrent).heads =
      frame.heads ++ [frame.messageHead turnId messageId] := by
  cases makeCurrent <;> rfl

lemma items_addMessage (frame : Frame) (turnId messageId : String) (makeCurrent : Bool) :
    (frame.addMessage turnId messageId makeCurrent).items =
      frame.items.insert (turnId, messageId) frame.heads.length := by
  cases makeCurrent <;> rfl

lemma mem_listRow {index : ℕ} {rows : List ℕ} {other : ℕ} :
    other ∈ frame.listRow turnId index rows ↔
      other ∈ rows ∨ other = index ∨ frame.buckets.lookup turnId = some other := by
  unfold listRow
  cases frame.buckets.lookup turnId with
  | none => simp
  | some bucket =>
      dsimp only
      split
      · next hmem =>
          rw [List.mem_append, List.mem_singleton, Option.some.injEq]
          constructor
          · rintro (h | h)
            · exact .inl h
            · exact .inr (.inl h)
          · rintro (h | h | rfl)
            · exact .inl h
            · exact .inr h
            · exact .inl hmem
      · simp only [List.mem_append, List.mem_singleton, Option.some.injEq]
        constructor
        · rintro ((h | h) | h)
          · exact .inl h
          · exact .inr (.inr h.symm)
          · exact .inr (.inl h)
        · rintro (h | h | h)
          · exact .inl (.inl h)
          · exact .inr h
          · exact .inl (.inr h.symm)

lemma listRow_sorted (h : frame.RowsKept) (turnId : String) :
    (frame.listRow turnId frame.heads.length (frame.rows turnId)).Pairwise (· < ·) := by
  have hrows : ∀ other ∈ frame.rows turnId, other < frame.heads.length :=
    fun other hother => (h.listed turnId other hother).lt
  unfold listRow
  cases hbucket : frame.buckets.lookup turnId with
  | none =>
      refine List.pairwise_append.mpr ⟨h.sorted turnId, List.pairwise_singleton _ _, ?_⟩
      intro other hother last hlast
      rw [List.mem_singleton.mp hlast]
      exact hrows other hother
  | some bucket =>
      have hlt := (h.bucket turnId bucket hbucket).lt
      dsimp only
      split
      · refine List.pairwise_append.mpr ⟨h.sorted turnId, List.pairwise_singleton _ _, ?_⟩
        intro other hother last hlast
        rw [List.mem_singleton.mp hlast]
        exact hrows other hother
      · next hnot =>
          refine List.pairwise_append.mpr ⟨List.pairwise_append.mpr
            ⟨h.sorted turnId, List.pairwise_singleton _ _, ?_⟩, List.pairwise_singleton _ _, ?_⟩
          · intro other hother last hlast
            rw [List.mem_singleton.mp hlast]
            exact h.unlisted turnId bucket hbucket hnot other hother
          · intro other hother last hlast
            rw [List.mem_singleton.mp hlast]
            rcases List.mem_append.mp hother with hother | hother
            · exact hrows other hother
            · rw [List.mem_singleton.mp hother]
              exact hlt

section AddMessage

variable {makeCurrent : Bool}

lemma assistant_addMessage_old {index : ℕ} {turn : String} (h : frame.Assistant index turn) :
    (frame.addMessage turnId messageId makeCurrent).Assistant index turn := by
  obtain ⟨head, hhead, hrest⟩ := h
  refine ⟨head, ?_, hrest⟩
  rw [heads_addMessage, List.getElem?_append_left (List.getElem?_eq_some_iff.mp hhead).1, hhead]

lemma assistant_addMessage_new (frame : Frame) (turnId messageId : String) (makeCurrent : Bool) :
    (frame.addMessage turnId messageId makeCurrent).Assistant frame.heads.length turnId :=
  ⟨frame.messageHead turnId messageId, by rw [heads_addMessage]; simp, rfl, rfl⟩

lemma bucket_addMessage_cases {turn : String} {index : ℕ}
    (h : (frame.addMessage turnId messageId makeCurrent).buckets.lookup turn = some index) :
    (turn = turnId ∧ index = frame.heads.length) ∨ frame.buckets.lookup turn = some index := by
  rw [buckets_addMessage] at h
  split at h
  · rw [Table.lookup_insert_eq] at h
    split at h
    · next hturn => exact .inl ⟨hturn, (Option.some.inj h).symm⟩
    · exact .inr h
  · exact .inr h

lemma rows_addMessage_mono {turn : String} {index : ℕ} (h : index ∈ frame.rows turn) :
    index ∈ (frame.addMessage turnId messageId makeCurrent).rows turn := by
  rw [rows_addMessage]
  split
  · next heq => exact mem_listRow.mpr (.inl (heq ▸ h))
  · exact h

lemma newRow_mem_rows (frame : Frame) (turnId messageId : String) (makeCurrent : Bool) :
    frame.heads.length ∈ (frame.addMessage turnId messageId makeCurrent).rows turnId := by
  rw [rows_addMessage, if_pos rfl]
  exact mem_listRow.mpr (.inr (.inl rfl))

lemma bucket_mem_rows {index : ℕ} (h : frame.buckets.lookup turnId = some index) :
    index ∈ (frame.addMessage turnId messageId makeCurrent).rows turnId := by
  rw [rows_addMessage, if_pos rfl]
  exact mem_listRow.mpr (.inr (.inr h))

lemma RowsKept.addMessage (h : frame.RowsKept) :
    (frame.addMessage turnId messageId makeCurrent).RowsKept where
  keys := by
    have hkeys : ((relist frame.byTurn turnId (frame.listRow turnId frame.heads.length)).map
      Prod.fst).Nodup := relist_keys h.keys
    cases makeCurrent <;> exact hkeys
  bucket := by
    intro turn index hindex
    rcases bucket_addMessage_cases hindex with ⟨rfl, rfl⟩ | hold
    · exact assistant_addMessage_new ..
    · exact assistant_addMessage_old (h.bucket turn index hold)
  listed := by
    intro turn index hindex
    rw [rows_addMessage] at hindex
    split at hindex
    · next hturn =>
        subst hturn
        rcases mem_listRow.mp hindex with hold | rfl | hbucket
        · exact assistant_addMessage_old (h.listed turn index hold)
        · exact assistant_addMessage_new ..
        · exact assistant_addMessage_old (h.bucket turn index hbucket)
    · exact assistant_addMessage_old (h.listed turn index hindex)
  sorted := by
    intro turn
    rw [rows_addMessage]
    split
    · exact listRow_sorted h turnId
    · exact h.sorted turn
  unlisted := by
    intro turn index hindex hnot other hother
    rcases bucket_addMessage_cases hindex with ⟨rfl, rfl⟩ | hold
    · exact absurd (newRow_mem_rows ..) hnot
    · by_cases hturn : turn = turnId
      · subst hturn
        exact absurd (bucket_mem_rows hold) hnot
      · rw [rows_addMessage, if_neg hturn] at hnot hother
        exact h.unlisted turn index hold hnot other hother
  items := by
    intro turn message index hindex
    rw [items_addMessage, Table.lookup_insert_eq] at hindex
    split at hindex
    · next heq =>
        cases heq
        cases hindex
        exact newRow_mem_rows ..
    · exact rows_addMessage_mono (h.items turn message index hindex)
  owned := by
    intro index head hhead hassistant
    rw [heads_addMessage] at hhead
    have hpushed : (frame.push (frame.messageHead turnId messageId)).heads[index]? = some head := hhead
    rcases getElem?_push_cases hpushed with hold | ⟨rfl, rfl⟩
    · obtain ⟨turn, hturn, hown⟩ := h.owned index head hold hassistant
      refine ⟨turn, hturn, ?_⟩
      rcases hown with hbucket | hlisted
      · by_cases heq : turn = turnId
        · subst heq
          exact .inr (bucket_mem_rows hbucket)
        · refine .inl ?_
          rw [buckets_addMessage]
          split
          · rw [Table.lookup_insert_eq, if_neg heq]
            exact hbucket
          · exact hbucket
      · exact .inr (rows_addMessage_mono hlisted)
    · exact ⟨turnId, rfl, .inr (newRow_mem_rows ..)⟩
  cards := by
    intro head hhead hassistant
    rw [heads_addMessage] at hhead
    rcases List.mem_append.mp hhead with hold | hnew
    · exact h.cards head hold hassistant
    · rw [List.mem_singleton.mp hnew]
      rfl

end AddMessage

lemma mem_completedMessages_finish {key : String × String} {index : ℕ} :
    key ∈ (frame.finish turnId index).completedMessages ↔
      key ∈ frame.completedMessages ∨ frame.items.lookup key = some index := by
  simp only [finish, Finset.mem_union, List.mem_toFinset, List.mem_map, List.mem_filter,
    decide_eq_true_eq]
  refine or_congr_right ⟨?_, fun hkey => ⟨⟨key, index⟩, ⟨AList.mem_lookup_iff.mp hkey, rfl⟩, rfl⟩⟩
  rintro ⟨⟨found, value⟩, ⟨hentry, rfl⟩, rfl⟩
  exact AList.mem_lookup_iff.mpr hentry

lemma lookup_active_finish {turn : String} {index : ℕ} {active : List ℕ}
    (h : (frame.finish turnId index).active.lookup turn = some active) :
    ∃ before, frame.active.lookup turn = some before ∧ ∀ other ∈ active, other ∈ before := by
  simp only [finish] at h
  cases hactive : frame.active.lookup turnId with
  | none =>
      rw [hactive] at h
      exact ⟨active, h, fun _ => id⟩
  | some before =>
      rw [hactive] at h
      dsimp only at h
      rw [Table.lookup_insert_eq] at h
      split at h
      · next hturn =>
          cases h
          exact ⟨before, hturn ▸ hactive, fun other hother => (List.mem_filter.mp hother).1⟩
      · exact ⟨active, h, fun _ => id⟩

lemma lookup_active_markActive {turn : String} {index : ℕ} {active : List ℕ}
    (h : (frame.markActive turnId index).active.lookup turn = some active) :
    ∀ other ∈ active, (turn = turnId ∧ other = index) ∨
      ∃ before, frame.active.lookup turn = some before ∧ other ∈ before := by
  intro other hother
  simp only [markActive] at h
  rw [Table.lookup_insert_eq] at h
  split at h
  · next hturn =>
      have hold : ∀ other ∈ (frame.active.lookup turnId).getD [],
          ∃ before, frame.active.lookup turn = some before ∧ other ∈ before := by
        intro other hother
        rw [hturn]
        cases hactive : frame.active.lookup turnId with
        | none => simp [hactive] at hother
        | some before =>
            rw [hactive] at hother
            exact ⟨before, rfl, hother⟩
      cases h
      split at hother
      · exact .inr (hold other hother)
      · rcases List.mem_append.mp hother with hother | hother
        · exact .inr (hold other hother)
        · exact .inl ⟨hturn, List.mem_singleton.mp hother⟩
  · exact .inr ⟨active, h, hother⟩

lemma OpenListed.finish (h : frame.OpenListed) (turnId : String) (index : ℕ) :
    (frame.finish turnId index).OpenListed where
  uncompleted turn message row hrow hnew :=
    h.uncompleted turn message row hrow fun hdone =>
      hnew (mem_completedMessages_finish.mpr (.inl hdone))
  active := by
    intro turn active hactive row hrow
    obtain ⟨before, hbefore, hmem⟩ := lookup_active_finish hactive
    exact h.active turn before hbefore row (hmem row hrow)

lemma OpenListed.markActive (h : frame.OpenListed) {index : ℕ} (hindex : index ∈ frame.rows turnId)
    (hlisted : frame.BucketListed turnId) : (frame.markActive turnId index).OpenListed where
  uncompleted := h.uncompleted
  active := by
    intro turn active hactive row hrow
    rcases lookup_active_markActive hactive row hrow with ⟨rfl, rfl⟩ | ⟨before, hbefore, hmem⟩
    · exact ⟨hindex, hlisted⟩
    · exact h.active turn before hbefore row hmem

lemma BucketListed.ensure {turn : String} (h : frame.BucketListed turn) (turnId : String) :
    (frame.ensure turnId).BucketListed turn := by
  unfold Frame.ensure
  split
  · exact h
  · next hnone =>
      obtain ⟨index, hindex, hbucket⟩ := h
      refine ⟨index, hindex, ?_⟩
      rw [Frame.setBucket, Table.lookup_insert_eq]
      split
      · next heq =>
          rw [heq, hnone] at hbucket
          cases hbucket
      · exact hbucket

lemma fields_ensure (frame : Frame) (turnId : String) :
    (frame.ensure turnId).items = frame.items ∧ (frame.ensure turnId).byTurn = frame.byTurn ∧
      (frame.ensure turnId).active = frame.active ∧
      (frame.ensure turnId).completedMessages = frame.completedMessages := by
  unfold Frame.ensure
  split <;> exact ⟨rfl, rfl, rfl, rfl⟩

lemma OpenListed.ensure (h : frame.OpenListed) (turnId : String) : (frame.ensure turnId).OpenListed := by
  obtain ⟨hitems, hbyTurn, hactive, hcompleted⟩ := fields_ensure frame turnId
  constructor
  · rw [hitems, hcompleted]
    exact fun turn message index hindex hnew =>
      (h.uncompleted turn message index hindex hnew).ensure turnId
  · rw [hactive]
    intro turn active hlookup index hindex
    obtain ⟨hmem, hlisted⟩ := h.active turn active hlookup index hindex
    exact ⟨by rwa [rows, hbyTurn], hlisted.ensure turnId⟩

lemma BucketListed.setBucket {turn : String} {index : ℕ} (h : frame.BucketListed turn)
    (hindex : index ∈ frame.rows turnId) : (frame.setBucket turnId index).BucketListed turn := by
  by_cases hturn : turn = turnId
  · subst hturn
    exact ⟨index, hindex, by rw [Frame.setBucket, Table.lookup_insert_eq, if_pos rfl]⟩
  · obtain ⟨found, hfound, hbucket⟩ := h
    refine ⟨found, hfound, ?_⟩
    rw [Frame.setBucket, Table.lookup_insert_eq, if_neg hturn]
    exact hbucket

lemma OpenListed.setBucket (h : frame.OpenListed) {index : ℕ} (hindex : index ∈ frame.rows turnId) :
    (frame.setBucket turnId index).OpenListed where
  uncompleted turn message row hrow hnew := (h.uncompleted turn message row hrow hnew).setBucket hindex
  active turn active hactive row hrow :=
    ⟨(h.active turn active hactive row hrow).1, (h.active turn active hactive row hrow).2.setBucket hindex⟩

lemma BucketListed.addMessage {turn : String} (h : frame.BucketListed turn) (turnId messageId : String)
    (makeCurrent : Bool) : (frame.addMessage turnId messageId makeCurrent).BucketListed turn := by
  obtain ⟨index, hindex, hbucket⟩ := h
  by_cases hturn : makeCurrent = true ∧ turn = turnId
  · obtain ⟨rfl, rfl⟩ := hturn
    exact ⟨frame.heads.length, newRow_mem_rows .., by
      rw [buckets_addMessage, if_pos rfl, Table.lookup_insert_eq, if_pos rfl]⟩
  · refine ⟨index, rows_addMessage_mono hindex, ?_⟩
    rw [buckets_addMessage]
    split
    · next hcurrent =>
        rw [Table.lookup_insert_eq, if_neg fun heq => hturn ⟨hcurrent, heq⟩]
        exact hbucket
    · exact hbucket

lemma bucketListed_addMessage (frame : Frame) (turnId messageId : String) :
    (frame.addMessage turnId messageId true).BucketListed turnId :=
  ⟨frame.heads.length, newRow_mem_rows .., by
    rw [buckets_addMessage, if_pos rfl, Table.lookup_insert_eq, if_pos rfl]⟩

lemma fields_addMessage (frame : Frame) (turnId messageId : String) (makeCurrent : Bool) :
    (frame.addMessage turnId messageId makeCurrent).active = frame.active ∧
      (frame.addMessage turnId messageId makeCurrent).completedMessages = frame.completedMessages := by
  cases makeCurrent <;> exact ⟨rfl, rfl⟩

lemma active_addMessage (h : frame.OpenListed) (makeCurrent : Bool) (turn : String) (active : List ℕ)
    (hactive : (frame.addMessage turnId messageId makeCurrent).active.lookup turn = some active) :
    ∀ index ∈ active, index ∈ (frame.addMessage turnId messageId makeCurrent).rows turn ∧
      (frame.addMessage turnId messageId makeCurrent).BucketListed turn := by
  intro index hindex
  rw [(fields_addMessage ..).1] at hactive
  obtain ⟨hmem, hlisted⟩ := h.active turn active hactive index hindex
  exact ⟨rows_addMessage_mono hmem, hlisted.addMessage ..⟩

lemma OpenListed.addMessage (h : frame.OpenListed) (turnId messageId : String) :
    (frame.addMessage turnId messageId true).OpenListed where
  uncompleted := by
    intro turn message index hindex hnew
    rw [items_addMessage, Table.lookup_insert_eq] at hindex
    split at hindex
    · next heq =>
        cases heq
        exact bucketListed_addMessage ..
    · rw [(fields_addMessage ..).2] at hnew
      exact (h.uncompleted turn message index hindex hnew).addMessage ..
  active := active_addMessage h true

lemma OpenListed.unopened (h : frame.OpenListed) (turnId messageId : String) :
    ((frame.addMessage turnId messageId false).finish turnId frame.heads.length).OpenListed where
  uncompleted := by
    intro turn message index hindex hnew
    have hstored : (frame.addMessage turnId messageId false).items.lookup (turn, message) =
      some index := hindex
    have hcompleted := mem_completedMessages_finish.not.mp hnew
    rw [items_addMessage, Table.lookup_insert_eq] at hstored hcompleted
    split at hstored
    · next heq => exact absurd (.inr (if_pos heq)) hcompleted
    · have hopen : (turn, message) ∉ frame.completedMessages := fun hdone => hcompleted (.inl hdone)
      exact (h.uncompleted turn message index hstored hopen).addMessage ..
  active := by
    intro turn active hactive row hrow
    obtain ⟨before, hbefore, hmem⟩ := lookup_active_finish hactive
    exact active_addMessage h false turn before hbefore row (hmem row hrow)

lemma OpenListed.aliased (h : frame.OpenListed) (turnId messageId : String) (index : ℕ) :
    ((frame.aliasMessage turnId messageId index).finish turnId index).OpenListed where
  uncompleted := by
    intro turn message row hrow hnew
    have hstored : (frame.aliasMessage turnId messageId index).items.lookup (turn, message) =
      some row := hrow
    have hcompleted := mem_completedMessages_finish.not.mp hnew
    rw [aliasMessage, Table.lookup_insert_eq] at hstored hcompleted
    split at hstored
    · next heq => exact absurd (.inr (if_pos heq)) hcompleted
    · have hopen : (turn, message) ∉ frame.completedMessages := fun hdone => hcompleted (.inl hdone)
      exact h.uncompleted turn message row hstored hopen
  active := by
    intro turn active hactive row hrow
    obtain ⟨before, hbefore, hmem⟩ := lookup_active_finish hactive
    exact h.active turn before hbefore row (hmem row hrow)

lemma RowsKept.aliasMessage (h : frame.RowsKept) {index : ℕ} (hindex : index ∈ frame.rows turnId) :
    (frame.aliasMessage turnId messageId index).RowsKept where
  keys := h.keys
  bucket := h.bucket
  listed := h.listed
  sorted := h.sorted
  unlisted := h.unlisted
  items := by
    intro turn message row hrow
    rw [Frame.aliasMessage, Table.lookup_insert_eq] at hrow
    split at hrow
    · next heq =>
        cases heq
        cases hrow
        exact hindex
    · exact h.items turn message row hrow
  owned := h.owned
  cards := h.cards

lemma RowsKept.finish (h : frame.RowsKept) (turnId : String) (index : ℕ) :
    (frame.finish turnId index).RowsKept :=
  ⟨h.keys, h.bucket, h.listed, h.sorted, h.unlisted, h.items, h.owned, h.cards⟩

lemma RowsKept.markActive (h : frame.RowsKept) (turnId : String) (index : ℕ) :
    (frame.markActive turnId index).RowsKept :=
  ⟨h.keys, h.bucket, h.listed, h.sorted, h.unlisted, h.items, h.owned, h.cards⟩

structure WellKept (frame : Frame) : Prop extends frame.RowsKept, frame.OpenListed

lemma noteHead_role {kind : SessionEventKind} {head : RowHead} (h : frame.noteHead kind = some head) :
    head.role = .system := by
  obtain ⟨note, -, rfl⟩ := Option.map_eq_some_iff.mp h
  rfl

lemma delegationHead_eq {delegationId : DelegationId} {head : RowHead}
    (h : frame.delegationHead delegationId = some head) : delegationId.value ∉ frame.delegations ∧
      head = ⟨"delegation-" ++ delegationId.value, .system, none, true⟩ := by
  unfold delegationHead at h
  split at h
  · cases h
  · next hnew =>
      cases h
      exact ⟨hnew, rfl⟩

lemma pushedHead_role {kind : SessionEventKind} {head : RowHead}
    (h : frame.pushedHead kind = some head) : head.role ≠ .assistant := by
  cases kind with
  | turnStarted | turnSteered =>
      cases h
      exact Role.noConfusion
  | sessionStarted =>
      obtain ⟨origin, -, rfl⟩ := Option.map_eq_some_iff.mp h
      exact Role.noConfusion
  | delegationRequested | delegationStarted | delegationDelta | delegationCompleted
  | delegationFailed | delegationCancelled =>
      rw [(delegationHead_eq h).2]
      exact Role.noConfusion
  | _ =>
      rw [noteHead_role h]
      exact Role.noConfusion

lemma noted_eq (frame : Frame) (event : TimelineEvent) :
    ∃ completedReasoning completedToolCalls delegations started steers,
      frame.noted event = { frame with
        completedReasoning := completedReasoning
        completedToolCalls := completedToolCalls
        delegations := delegations
        started := started
        steers := steers } := by
  have hdelegation : ∀ delegationId, ∃ delegations,
      frame.noteDelegation delegationId = { frame with delegations := delegations } := by
    intro delegationId
    unfold noteDelegation
    split <;> exact ⟨_, rfl⟩
  unfold noted
  cases event.kind with
  | delegationRequested delegationId | delegationStarted delegationId _
  | delegationDelta delegationId _ | delegationCompleted delegationId _
  | delegationFailed delegationId _ | delegationCancelled delegationId _ =>
      obtain ⟨delegations, heq⟩ := hdelegation delegationId
      exact ⟨_, _, delegations, _, _, heq⟩
  | _ => exact ⟨_, _, _, _, _, rfl⟩

lemma WellKept.noted (h : frame.WellKept) (event : TimelineEvent) : (frame.noted event).WellKept := by
  obtain ⟨_, _, _, _, _, heq⟩ := noted_eq frame event
  rw [heq]
  exact ⟨⟨h.keys, h.bucket, h.listed, h.sorted, h.unlisted, h.items, h.owned, h.cards⟩,
    ⟨h.uncompleted, h.active⟩⟩

lemma WellKept.pushAll (h : frame.WellKept) {heads : Option RowHead}
    (hrole : ∀ head, heads = some head → head.role ≠ .assistant) : (frame.pushAll heads).WellKept := by
  cases heads with
  | none => exact h
  | some head => exact ⟨h.toRowsKept.push (hrole head rfl), ⟨h.uncompleted, h.active⟩⟩

theorem WellKept.step (h : frame.WellKept) {event : TimelineEvent} {frame' : Frame}
    (hstep : FrameStep frame event frame') : frame'.WellKept := by
  cases hstep with
  | plain => exact (h.noted event).pushAll fun head => pushedHead_role
  | loose => exact ⟨h.toRowsKept.ensure _, h.toOpenListed.ensure _⟩
  | ignored => exact h
  | resumed _ hnew hitem =>
      have hindex := h.items _ _ _ hitem
      have hlisted := h.uncompleted _ _ _ hitem hnew
      exact ⟨(h.toRowsKept.setBucket hindex hlisted).markActive _ _,
        (h.toOpenListed.setBucket hindex).markActive hindex (hlisted.setBucket hindex)⟩
  | opened =>
      exact ⟨h.toRowsKept.addMessage.markActive _ _, (h.toOpenListed.addMessage _ _).markActive
        (newRow_mem_rows ..) (bucketListed_addMessage ..)⟩
  | finished => exact ⟨h.toRowsKept.finish _ _, h.toOpenListed.finish _ _⟩
  | aliased _ _ hactive =>
      have hindex := (h.active _ _ hactive _ (List.mem_singleton_self _)).1
      exact ⟨(h.toRowsKept.aliasMessage hindex).finish _ _, h.toOpenListed.aliased _ _ _⟩
  | unopened => exact ⟨h.toRowsKept.addMessage.finish _ _, h.toOpenListed.unopened _ _⟩

lemma looseTurn_of_message {kind : SessionEventKind} {key : String × String}
    (h : openedMessage kind = some key ∨ finishedMessage kind = some key) :
    frame.looseTurn kind = none := by
  rcases h with h | h <;> cases kind <;> first | rfl | cases h

lemma step_loose {event : TimelineEvent} {frame' : Frame} (hstep : FrameStep frame event frame')
    (hloose : frame.looseTurn event.kind = some turnId) : frame' = frame.ensure turnId := by
  cases hstep with
  | plain _ _ hnone =>
      rw [hloose] at hnone
      cases hnone
  | loose _ _ hturn =>
      rw [hloose, Option.some.injEq] at hturn
      rw [hturn]
  | ignored hmessage | resumed hmessage | opened hmessage =>
      rw [looseTurn_of_message (.inl hmessage)] at hloose
      cases hloose
  | finished hmessage | aliased hmessage | unopened hmessage =>
      rw [looseTurn_of_message (.inr hmessage)] at hloose
      cases hloose

lemma heads_step {event : TimelineEvent} {frame' : Frame} (hstep : FrameStep frame event frame') :
    frame.heads <+: frame'.heads := by
  cases hstep with
  | plain =>
      obtain ⟨_, _, _, _, _, heq⟩ := noted_eq frame event
      rw [heq]
      cases frame.pushedHead event.kind with
      | none => exact List.prefix_refl _
      | some head => exact List.prefix_append _ _
  | loose =>
      unfold Frame.ensure
      split
      · exact List.prefix_refl _
      · exact List.prefix_append _ _
  | ignored | resumed | finished | aliased => exact List.prefix_refl _
  | opened =>
      have hheads := heads_addMessage frame
      exact (hheads _ _ _).symm ▸ List.prefix_append _ _
  | unopened =>
      have hheads := heads_addMessage frame
      exact (hheads _ _ _).symm ▸ List.prefix_append _ _

lemma Assistant.step {event : TimelineEvent} {frame' : Frame} {index : ℕ}
    (h : frame.Assistant index turnId) (hstep : FrameStep frame event frame') :
    frame'.Assistant index turnId := by
  obtain ⟨head, hhead, hrest⟩ := h
  obtain ⟨more, hmore⟩ := heads_step hstep
  refine ⟨head, ?_, hrest⟩
  rw [← hmore, List.getElem?_append_left (List.getElem?_eq_some_iff.mp hhead).1, hhead]

end Frame

def projectorAfter (sessionId : String) (events : List TimelineEvent) : Projector :=
  events.foldl Projector.apply (Projector.new sessionId)

lemma projectorAfter_append (sessionId : String) (events : List TimelineEvent) (event : TimelineEvent) :
    projectorAfter sessionId (events ++ [event]) = (projectorAfter sessionId events).apply event := by
  simp [projectorAfter]

lemma wellKept_new (sessionId : String) : (Projector.new sessionId).frame.WellKept where
  keys := List.nodup_nil
  bucket _ _ h := by cases h
  listed _ _ h := by cases h
  sorted _ := List.Pairwise.nil
  unlisted _ _ h := by cases h
  items _ _ _ h := by cases h
  owned _ _ h := by cases h
  cards _ h := by cases h
  uncompleted _ _ _ h := by cases h
  active _ _ h := by cases h

theorem wellKept_projectorAfter (sessionId : String) (events : List TimelineEvent) :
    (projectorAfter sessionId events).frame.WellKept := by
  induction events using List.reverseRecOn with
  | nil => exact wellKept_new sessionId
  | append_singleton events event ih =>
      rw [projectorAfter_append]
      exact ih.step (Projector.frame_apply _ _)

end DevCommandCenter.Timeline
