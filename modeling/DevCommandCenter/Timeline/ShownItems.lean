import DevCommandCenter.Timeline.RowItems

/-! What the end of a projection shows of a part of the annotations. -/

namespace DevCommandCenter.Timeline

open Library

section Picks

variable {β κ : Type} {pick : Annotation → Option β} {key : β → κ}

def ItemEdit.Leaves (pick : Annotation → Option β) : ItemEdit → Prop
  | orAdd _ change added => (∀ item, pick (change item) = pick item) ∧ pick added = none
  | first _ change => ∀ item, pick (change item) = pick item
  | every change => ∀ item, pick (change item) = pick item

structure Picks (pick : Annotation → Option β) (key : β → κ) : Prop where
  commentary : ∀ id content streaming createdAt, pick (.commentary id content streaming createdAt) = none
  replaced : ∀ incoming existing, sameAnnotation incoming existing = true →
    pick ( replaceAnnotation incoming existing) = pick incoming
  same : ∀ incoming existing, sameAnnotation incoming existing = true →
    ∀ b, pick incoming = some b → ∃ b', pick existing = some b' ∧ key b' = key b
  other : ∀ incoming existing, sameAnnotation incoming existing = true →
    pick incoming = none → pick existing = none

lemma filterMap_modifyFirst {p : Annotation → Bool} {f : Annotation → Annotation}
    (h : ∀ item, p item = true → pick (f item) = pick item) (annotations : List Annotation) :
    (modifyFirst p f annotations).filterMap pick = annotations.filterMap pick := by
  induction annotations with
  | nil => rfl
  | cons item annotations ih =>
      rw [modifyFirst]
      split
      · next hp => rw [List.filterMap_cons, h item hp, List.filterMap_cons]
      · rw [List.filterMap_cons, ih, List.filterMap_cons]

lemma ItemEdit.Leaves.run {edit : ItemEdit} (h : edit.Leaves pick) (annotations : List Annotation) :
    (edit.run annotations).filterMap pick = annotations.filterMap pick := by
  cases edit with
  | orAdd same change added =>
      obtain ⟨hchange, hadded⟩ := h
      dsimp only [ItemEdit.run]
      split
      · exact filterMap_modifyFirst (fun item _ => hchange item) annotations
      · rw [List.filterMap_append, List.filterMap_cons, hadded, List.filterMap_nil, List.append_nil]
  | first same change => exact filterMap_modifyFirst (fun item _ => h item) annotations
  | every change =>
      dsimp only [ItemEdit.run]
      rw [List.filterMap_map]
      exact List.filterMap_congr fun item _ => h item

lemma Picks.merge (h : Picks pick key) (annotations : List Annotation) (incoming : Annotation)
    (hnew : ∀ b, pick incoming = some b → key b ∉ (annotations.filterMap pick).map key) :
    ( mergeAnnotation annotations incoming).filterMap pick =
      annotations.filterMap pick ++ (pick incoming).toList := by
  unfold mergeAnnotation
  split
  · next hany =>
      obtain ⟨existing, hmem, hsame⟩ := List.any_eq_true.mp hany
      have hnone : pick incoming = none := by
        cases hpick : pick incoming with
        | none => rfl
        | some b =>
            obtain ⟨b', hpick', hkey⟩ := h.same incoming existing hsame b hpick
            refine absurd (List.mem_map.mpr ⟨b', ?_, hkey⟩) (hnew b hpick)
            exact List.mem_filterMap.mpr ⟨existing, hmem, hpick'⟩
      rw [hnone, Option.toList_none, List.append_nil]
      refine filterMap_modifyFirst (fun item hitem => ?_) annotations
      rw [h.replaced incoming item hitem, hnone, h.other incoming item hitem hnone]
  · rw [List.filterMap_append]
    rfl

lemma Picks.mergeAll (h : Picks pick key) (annotations incoming : List Annotation)
    (hnodup : ((annotations.filterMap pick ++ incoming.filterMap pick).map key).Nodup) :
    (incoming.foldl mergeAnnotation annotations).filterMap pick =
      annotations.filterMap pick ++ incoming.filterMap pick := by
  induction incoming generalizing annotations with
  | nil => simp
  | cons item incoming ih =>
      have hsplit : (item :: incoming).filterMap pick = (pick item).toList ++ incoming.filterMap pick := by
        rw [List.filterMap_cons]
        cases pick item <;> rfl
      rw [hsplit, ← List.append_assoc] at hnodup
      have hmerged := h.merge annotations item fun b hb => by
        rw [hb, Option.toList_some, List.map_append, List.map_append] at hnodup
        have hfirst := (List.nodup_append.mp (List.nodup_append.mp hnodup).1).2.2
        exact fun hmem => hfirst (key b) hmem (key b) (List.mem_singleton_self _) rfl
      rw [List.foldl_cons, ih, hmerged, hsplit, List.append_assoc]
      rwa [hmerged]

lemma Picks.folded (h : Picks pick key) (messages : List TimelineMessage) (rows : List ℕ)
    (settled : Bool) (terminal : ℕ)
    (hnodup : ((rows.flatMap fun i =>
      (((messages[i]?).map TimelineMessage.annotations).getD []).filterMap pick).map key).Nodup) :
    (foldedAnnotations messages rows settled terminal).filterMap pick =
      rows.flatMap fun i =>
        (((messages[i]?).map TimelineMessage.annotations).getD []).filterMap pick := by
  induction rows using List.reverseRecOn with
  | nil => rfl
  | append_singleton rows i ih =>
      rw [List.flatMap_append, List.map_append] at hnodup
      have hrows := ih (List.nodup_append.mp hnodup).1
      rw [foldedAnnotations, List.foldl_append, List.foldl_cons, List.foldl_nil, ← foldedAnnotations,
        List.flatMap_append, List.flatMap_singleton]
      rw [← List.map_append, List.flatMap_singleton, ← hrows] at hnodup
      cases hmessage : messages[i]? with
      | none => simp [hrows]
      | some message =>
          rw [hmessage, Option.map_some, Option.getD_some] at hnodup
          dsimp only [Option.map_some, Option.getD_some]
          have hcommentary : ∀ id content streaming createdAt,
              ( mergeAnnotation (foldedAnnotations messages rows settled terminal)
                (.commentary id content streaming createdAt)).filterMap pick =
              (foldedAnnotations messages rows settled terminal).filterMap pick := by
            intro id content streaming createdAt
            have hnone := h.commentary id content streaming createdAt
            have hmerged := h.merge (foldedAnnotations messages rows settled terminal)
              (.commentary id content streaming createdAt) fun b hb => by
                rw [hnone] at hb
                cases hb
            rw [hmerged, hnone, Option.toList_none, List.append_nil]
          split
          · rw [h.mergeAll _ _ (by rwa [hcommentary]), hcommentary, hrows]
          · rw [h.mergeAll _ _ hnodup, hrows]

end Picks

namespace Projector

section Shown

variable {β κ : Type} {pick : Annotation → Option β} {key : β → κ} {projector : Projector}
  {isAlphanumeric : Char → Bool} {turnId : String} {i : ℕ}

def pickedAt (pick : Annotation → Option β) (projector : Projector) (row : ℕ) : List β :=
  (projector.annotationsAt row).filterMap pick

def rowsBehind (isAlphanumeric : Char → Bool) (projector : Projector) (i : ℕ) : List ℕ :=
  match projector.assistantMessagesByTurn.find? fun turn =>
    projector.stays isAlphanumeric turn.1 == some i with
  | some turn => turn.2
  | none => [i]

lemma pickedAt_of_leaves (hkept : projector.frame.WellKept) {event : TimelineEvent}
    (h : (projector.itemEdit event).2.Leaves pick) (row : ℕ) :
    (projector.apply event).pickedAt pick row = projector.pickedAt pick row := by
  rw [pickedAt, annotationsAt_apply hkept, editedAt]
  split
  · exact h.run _
  · rfl

lemma pickedAt_of_every (hkept : projector.frame.WellKept) {event : TimelineEvent} {rows : List ℕ}
    {change : Annotation → Annotation} {g : β → β}
    (hedit : projector.itemEdit event = (rows, .every change))
    (h : ∀ item, pick (change item) = (pick item).map g) (row : ℕ) :
    (projector.apply event).pickedAt pick row =
      if row ∈ rows then (projector.pickedAt pick row).map g else projector.pickedAt pick row := by
  rw [pickedAt, annotationsAt_apply hkept, editedAt, hedit]
  dsimp only [ItemEdit.run]
  split
  · rw [List.filterMap_map, pickedAt, List.map_filterMap]
    exact List.filterMap_congr fun item _ => h item
  · rfl

def shownOrder (isAlphanumeric : Char → Bool) (projector : Projector) : List ℕ :=
  (projector.shown isAlphanumeric).flatMap (projector.rowsBehind isAlphanumeric)

lemma rowsBehind_of_stays (hkept : projector.frame.WellKept)
    (h : projector.stays isAlphanumeric turnId = some i) :
    projector.rowsBehind isAlphanumeric i = projector.frame.rows turnId := by
  unfold rowsBehind
  cases hfind : projector.assistantMessagesByTurn.find? fun turn =>
      projector.stays isAlphanumeric turn.1 == some i with
  | none =>
      have hturn := turn_mem_byTurn (mem_rows_of_stays h)
      exact absurd (List.find?_eq_none.mp hfind _ hturn) (by simp [h])
  | some turn =>
      have hstays : projector.stays isAlphanumeric turn.1 = some i := by
        simpa using List.find?_some hfind
      have hsame : turn.1 = turnId := (hkept.listed turn.1 i (mem_rows_of_stays hstays)).unique
        (hkept.listed turnId i (mem_rows_of_stays h))
      rw [← hsame]
      exact mem_byTurn hkept (List.mem_of_find?_eq_some hfind)

lemma rowsBehind_of_other (h : ∀ turnId, projector.stays isAlphanumeric turnId ≠ some i) :
    projector.rowsBehind isAlphanumeric i = [i] := by
  unfold rowsBehind
  rw [List.find?_eq_none.mpr]
  exact fun turn _ => by simp [h turn.1]

lemma flatMap_filterMap_eq {α γ : Type} {l : List α} {f : α → Option γ} {g : γ → List β}
    {h : α → List β} (heq : ∀ a ∈ l, ∃ c, f a = some c ∧ g c = h a) :
    (l.filterMap f).flatMap g = l.flatMap h := by
  induction l with
  | nil => rfl
  | cons a l ih =>
      obtain ⟨⟨c, hc, hgc⟩, hrest⟩ := List.forall_mem_cons.mp heq
      rw [List.filterMap_cons_some hc, List.flatMap_cons, List.flatMap_cons, hgc, ih hrest]

lemma finalRows_annotations (projector : Projector) (i : ℕ) :
    (((projector.finalRows isAlphanumeric)[i]?).map TimelineMessage.annotations).getD [] =
      projector.annotationsAt i := by
  have hfaces : (projector.finalRows isAlphanumeric).map face = projector.faces :=
    faces_finalRows projector
  have hface := congrArg (fun faces => (faces[i]?).map Prod.snd) hfaces
  simp only [faces, List.getElem?_map, Option.map_map] at hface
  exact congrArg (fun annotations => annotations.getD []) hface

lemma mem_rowsBehind (hkept : projector.frame.WellKept) (hi : i ∈ projector.shown isAlphanumeric)
    {row : ℕ} : row ∈ projector.rowsBehind isAlphanumeric i ↔
      (∃ turnId, row ∈ projector.frame.rows turnId ∧
        projector.stays isAlphanumeric turnId = some i) ∨
      (row = i ∧ ∀ turnId, row ∉ projector.frame.rows turnId) := by
  by_cases hstays : ∃ turnId, projector.stays isAlphanumeric turnId = some i
  · obtain ⟨turnId, hturn⟩ := hstays
    have hlisted := mem_rows_of_stays hturn
    rw [rowsBehind_of_stays hkept hturn]
    constructor
    · exact fun hmem => .inl ⟨turnId, hmem, hturn⟩
    · rintro (⟨turn, hmem, hturn'⟩ | ⟨rfl, hnone⟩)
      · have hsame := (hkept.listed turn i (mem_rows_of_stays hturn')).unique
          (hkept.listed turnId i hlisted)
        exact hsame ▸ hmem
      · exact absurd hlisted (hnone turnId)
  · have hother := not_exists.mp hstays
    rw [rowsBehind_of_other hother, List.mem_singleton]
    constructor
    · rintro rfl
      exact .inr ⟨rfl, fun turnId hmem => hother turnId (((mem_shown hkept).mp hi).2 turnId hmem)⟩
    · rintro (⟨turnId, -, hturn⟩ | ⟨rfl, -⟩)
      · exact absurd hturn (hother turnId)
      · rfl

lemma shownOrder_nodup (hkept : projector.frame.WellKept) :
    (projector.shownOrder isAlphanumeric).Nodup := by
  have hshown : (projector.shown isAlphanumeric).Nodup := List.nodup_range.filter _
  refine List.nodup_flatMap.mpr ⟨fun i _ => ?_, hshown.imp_of_mem fun {i j} hi hj hne => ?_⟩
  · by_cases hstays : ∃ turnId, projector.stays isAlphanumeric turnId = some i
    · obtain ⟨turnId, hturn⟩ := hstays
      rw [rowsBehind_of_stays hkept hturn]
      exact (hkept.sorted turnId).imp fun hlt => ne_of_lt hlt
    · rw [rowsBehind_of_other (not_exists.mp hstays)]
      exact List.nodup_singleton i
  · refine List.disjoint_left.mpr fun row hrow hrow' => hne ?_
    rcases (mem_rowsBehind hkept hi).mp hrow with ⟨turnId, hmem, hturn⟩ | ⟨rfl, hnone⟩
    · rcases (mem_rowsBehind hkept hj).mp hrow' with ⟨turnId', hmem', hturn'⟩ | ⟨-, hnone⟩
      · rw [(hkept.listed turnId row hmem).unique (hkept.listed turnId' row hmem')] at hturn
        exact Option.some.inj (hturn.symm.trans hturn')
      · exact absurd hmem (hnone turnId)
    · rcases (mem_rowsBehind hkept hj).mp hrow' with ⟨turnId', hmem', -⟩ | ⟨heq, -⟩
      · exact absurd hmem' (hnone turnId')
      · exact heq

lemma mem_shownOrder (hkept : projector.frame.WellKept) {row : ℕ}
    (h : row < projector.messages.length) : row ∈ projector.shownOrder isAlphanumeric := by
  rw [shownOrder, List.mem_flatMap]
  by_cases hlisted : ∃ turnId, row ∈ projector.frame.rows turnId
  · obtain ⟨turnId, hmem⟩ := hlisted
    obtain ⟨terminal, hstays⟩ : ∃ terminal, projector.stays isAlphanumeric turnId = some terminal :=
      exists_stays hmem
    have hterminal := hkept.listed turnId terminal (mem_rows_of_stays hstays)
    have hlt := hterminal.lt
    rw [frame_heads_length] at hlt
    have hshown : terminal ∈ projector.shown isAlphanumeric := by
      refine (mem_shown hkept).mpr ⟨hlt, fun turn hturn => ?_⟩
      rw [(hkept.listed turn terminal hturn).unique hterminal]
      exact hstays
    exact ⟨terminal, hshown, (mem_rowsBehind hkept hshown).mpr (.inl ⟨turnId, hmem, hstays⟩)⟩
  · have hnone := not_exists.mp hlisted
    have hshown : row ∈ projector.shown isAlphanumeric :=
      (mem_shown hkept).mpr ⟨h, fun turnId hmem => absurd hmem (hnone turnId)⟩
    exact ⟨row, hshown, (mem_rowsBehind hkept hshown).mpr (.inr ⟨rfl, hnone⟩)⟩

lemma folded_picked (hpicks : Picks pick key) (hkept : projector.frame.WellKept)
    (hnodup : ∀ turnId, projector.stays isAlphanumeric turnId = some i →
      (((projector.frame.rows turnId).flatMap (projector.pickedAt pick)).map key).Nodup)
    {message : TimelineMessage} (h : (projector.folded isAlphanumeric).1[i]? = some message) :
    message.annotations.filterMap pick =
      (projector.rowsBehind isAlphanumeric i).flatMap (projector.pickedAt pick) := by
  have hrows : ∀ rows : List ℕ, (rows.flatMap fun i =>
      ((((projector.finalRows isAlphanumeric)[i]?).map TimelineMessage.annotations).getD []).filterMap
        pick) = rows.flatMap (projector.pickedAt pick) := by
    intro rows
    refine List.flatMap_congr fun i _ => ?_
    rw [finalRows_annotations, pickedAt]
  by_cases hstays : ∃ turnId, projector.stays isAlphanumeric turnId = some i
  · obtain ⟨turnId, hturn⟩ := hstays
    rw [folded_of_stays hkept hturn] at h
    obtain ⟨row, -, rfl⟩ := Option.map_eq_some_iff.mp h
    rw [rowsBehind_of_stays hkept hturn, ← hrows]
    refine hpicks.folded _ _ _ _ ?_
    rw [hrows]
    exact hnodup turnId hturn
  · have hother := not_exists.mp hstays
    have hrow : (((projector.finalRows isAlphanumeric)[i]?).map TimelineMessage.annotations).getD [] =
        projector.annotationsAt i := finalRows_annotations projector i
    rw [folded_of_other hkept hother] at h
    rw [h, Option.map_some, Option.getD_some] at hrow
    rw [rowsBehind_of_other hother, List.flatMap_singleton, pickedAt, hrow]

def AnnotatedAssistant (projector : Projector) : Prop :=
  ∀ row, projector.annotationsAt row ≠ [] → ∃ turnId, projector.frame.Assistant row turnId

lemma card_annotations (hkept : projector.frame.WellKept) (hannotated : projector.AnnotatedAssistant)
    {message : TimelineMessage} (hmessage : message ∈ projector.shownRows isAlphanumeric)
    (hcard : message.delegation.isSome = true) : message.annotations = [] := by
  obtain ⟨i, -, hrow⟩ := List.mem_filterMap.mp hmessage
  rcases head_of_folded hkept hrow with ⟨turnId, -, hhead⟩ | ⟨hother, hhead⟩
  · have hno : message.delegation.isSome = false := congrArg RowHead.card hhead
    rw [hno] at hcard
    cases hcard
  · have hannotations : (((projector.finalRows isAlphanumeric)[i]?).map
        TimelineMessage.annotations).getD [] = projector.annotationsAt i :=
      finalRows_annotations projector i
    rw [folded_of_other hkept hother] at hrow
    rw [hrow, Option.map_some, Option.getD_some] at hannotations
    rw [hannotations]
    by_contra hsome
    obtain ⟨turnId, head, hfound, hrole, -⟩ := hannotated i hsome
    rw [hhead, Option.some.injEq] at hfound
    subst hfound
    have hno : message.delegation.isSome = false :=
      hkept.cards message.head (List.mem_of_getElem? hhead) hrole
    rw [hno] at hcard
    cases hcard

lemma flatMap_finish (hkept : projector.frame.WellKept) {g : TimelineMessage → List β} {f : ℕ → List β}
    (hcards : ∀ message ∈ projector.shownRows isAlphanumeric, message.delegation.isSome = true →
      g message = [])
    (hfolded : ∀ i message, (projector.folded isAlphanumeric).1[i]? = some message →
      g message = (projector.rowsBehind isAlphanumeric i).flatMap f) :
    (projector.finish isAlphanumeric).flatMap g = (projector.shownOrder isAlphanumeric).flatMap f := by
  rw [finish_eq_shownRows, flatMap_placed hcards, shownOrder, List.flatMap_assoc, shownRows]
  refine flatMap_filterMap_eq fun i hi => ?_
  have hlt := ((mem_shown hkept).mp hi).1
  rw [← frame_heads_length] at hlt
  obtain ⟨message, hrow⟩ := exists_folded hkept hlt
  exact ⟨message, hrow, hfolded i message hrow⟩

theorem finish_picked (hpicks : Picks pick key) (hkept : projector.frame.WellKept)
    (hannotated : projector.AnnotatedAssistant)
    (hnodup : ∀ turnId, (((projector.frame.rows turnId).flatMap (projector.pickedAt pick)).map key).Nodup) :
    ((projector.finish isAlphanumeric).flatMap fun message => message.annotations.filterMap pick) =
      (projector.shownOrder isAlphanumeric).flatMap (projector.pickedAt pick) := by
  refine flatMap_finish hkept (fun message hmessage hcard => ?_) fun i message hrow => ?_
  · rw [card_annotations hkept hannotated hmessage hcard]
    rfl
  · exact folded_picked hpicks hkept (fun turnId _ => hnodup turnId) hrow

def turnAt (projector : Projector) (row : ℕ) : Option String :=
  (projector.frame.heads[row]?).bind RowHead.turnId

lemma folded_turnId (hkept : projector.frame.WellKept) {message : TimelineMessage}
    (h : (projector.folded isAlphanumeric).1[i]? = some message) {row : ℕ}
    (hrow : row ∈ projector.rowsBehind isAlphanumeric i) :
    message.turnId = projector.turnAt row := by
  rcases head_of_folded hkept h with ⟨turnId, hstays, hhead⟩ | ⟨hother, hhead⟩
  · rw [rowsBehind_of_stays hkept hstays] at hrow
    obtain ⟨head, hfound, -, hturn⟩ := hkept.listed turnId row hrow
    rw [turnAt, hfound, Option.bind_some, hturn]
    exact congrArg RowHead.turnId hhead
  · rw [rowsBehind_of_other hother, List.mem_singleton] at hrow
    rw [turnAt, hrow, hhead]
    rfl

theorem finish_picked_turn (hpicks : Picks pick key) (hkept : projector.frame.WellKept)
    (hannotated : projector.AnnotatedAssistant) (turnId : String)
    (hnodup : (((projector.frame.rows turnId).flatMap (projector.pickedAt pick)).map key).Nodup) :
    ((projector.finish isAlphanumeric).flatMap fun message =>
      if message.turnId = some turnId then message.annotations.filterMap pick else []) =
      (projector.shownOrder isAlphanumeric).flatMap fun row =>
        if projector.turnAt row = some turnId then projector.pickedAt pick row else [] := by
  refine flatMap_finish hkept (fun message hmessage hcard => ?_) fun i message hrow => ?_
  · rw [card_annotations hkept hannotated hmessage hcard, List.filterMap_nil, ite_self]
  · by_cases hturn : message.turnId = some turnId
    · have hone : ∀ turn, projector.stays isAlphanumeric turn = some i → turn = turnId := by
        intro turn hstays
        have hlisted := mem_rows_of_stays hstays
        rw [folded_turnId hkept hrow (by rwa [rowsBehind_of_stays hkept hstays])] at hturn
        obtain ⟨head, hfound, -, hhead⟩ := hkept.listed turn i hlisted
        rw [turnAt, hfound, Option.bind_some, hhead] at hturn
        exact Option.some.inj hturn
      rw [if_pos hturn, folded_picked hpicks hkept (fun turn hstays => hone turn hstays ▸ hnodup) hrow]
      refine List.flatMap_congr fun row hbehind => ?_
      rw [← folded_turnId hkept hrow hbehind, if_pos hturn]
    · rw [if_neg hturn, eq_comm, List.flatMap_eq_nil_iff]
      intro row hbehind
      rw [← folded_turnId hkept hrow hbehind, if_neg hturn]

end Shown

section Annotated

variable {projector : Projector} {event : TimelineEvent} {turnId : String} {row : ℕ}

lemma assistant_of_rowsOfTurn (hkept : projector.frame.WellKept)
    (h : row ∈ projector.rowsOfTurn turnId) : projector.frame.Assistant row turnId := by
  unfold rowsOfTurn at h
  split at h
  · next rows hrows =>
      obtain ⟨turn, hfind, rfl⟩ := Option.map_eq_some_iff.mp hrows
      have hturn : turn.1 = turnId := by simpa using List.find?_some hfind
      rw [mem_byTurn hkept (List.mem_of_find?_eq_some hfind), hturn] at h
      exact hkept.listed turnId row h
  · exact hkept.bucket turnId row (Option.mem_toList.mp h)

lemma assistant_of_currentRow (hkept : projector.frame.WellKept)
    (hlt : projector.currentRow turnId < projector.messages.length) :
    projector.frame.Assistant (projector.currentRow turnId) turnId := by
  unfold currentRow at hlt ⊢
  cases hbucket : projector.assistantBuckets.lookup turnId with
  | some index => exact hkept.bucket turnId index hbucket
  | none =>
      rw [hbucket, Option.getD_none] at hlt
      exact absurd hlt (lt_irrefl _)

lemma bucket_of_loose (hloose : projector.frame.looseTurn event.kind = some turnId) :
    (projector.apply event).assistantBuckets.lookup turnId = some (projector.currentRow turnId) := by
  have hensured := Frame.step_loose (frame_apply projector event) hloose
  rw [← frame_ensureAssistant projector turnId ""] at hensured
  have hbuckets := congrArg (fun frame => frame.buckets.lookup turnId) hensured
  exact hbuckets.trans (bucket_ensured projector turnId "")

lemma assistant_of_loose (hkept : projector.frame.WellKept)
    (hloose : projector.frame.looseTurn event.kind = some turnId) :
    (projector.apply event).frame.Assistant (projector.currentRow turnId) turnId :=
  (hkept.step (frame_apply projector event)).bucket turnId _ (bucket_of_loose hloose)

lemma loose_of_added (hrow : row ∈ (projector.itemEdit event).1)
    (hadded : (projector.itemEdit event).2.run [] ≠ []) :
    ∃ turnId, projector.frame.looseTurn event.kind = some turnId ∧
      row = projector.currentRow turnId := by
  obtain ⟨kind, occurredAt⟩ := event
  cases kind with
  | turnUserInputRequested turnId | turnPermissionRequested turnId | turnNativeSubagentActivity turnId =>
      exact ⟨turnId.value, rfl, List.mem_singleton.mp hrow⟩
  | turnReasoningStarted turnId reasoningId | turnReasoningDelta turnId reasoningId =>
      dsimp only [itemEdit] at hrow
      by_cases hdone : (turnId.value, reasoningId) ∈ projector.completedReasoningItems
      · rw [if_pos hdone] at hrow
        cases hrow
      · rw [if_neg hdone] at hrow
        exact ⟨turnId.value, if_neg hdone, List.mem_singleton.mp hrow⟩
  | turnToolCallStarted turnId toolCallId action =>
      dsimp only [itemEdit] at hrow
      by_cases hhidden : isHiddenToolAction action = true
      · rw [if_pos hhidden] at hrow
        cases hrow
      by_cases hdone : (turnId.value, toolCallId) ∈ projector.completedToolCallItems
      · rw [if_neg hhidden, if_pos hdone] at hrow
        cases hrow
      · rw [if_neg hhidden, if_neg hdone] at hrow
        exact ⟨turnId.value, (if_neg hhidden).trans (if_neg hdone), List.mem_singleton.mp hrow⟩
  | _ => exact absurd rfl hadded

theorem AnnotatedAssistant.step (h : projector.AnnotatedAssistant) (hkept : projector.frame.WellKept)
    (event : TimelineEvent) : (projector.apply event).AnnotatedAssistant := by
  intro row hsome
  rw [annotationsAt_apply hkept, editedAt] at hsome
  by_cases hold : projector.annotationsAt row = []
  · rw [hold] at hsome
    split at hsome
    · next hrow =>
        obtain ⟨turnId, hloose, rfl⟩ := loose_of_added hrow hsome
        exact ⟨turnId, assistant_of_loose hkept hloose⟩
    · exact absurd rfl hsome
  · obtain ⟨turnId, hassistant⟩ := h row hold
    exact ⟨turnId, hassistant.step (frame_apply projector event)⟩

end Annotated

end Projector

theorem annotatedAssistant_projectorAfter (sessionId : String) (events : List TimelineEvent) :
    (projectorAfter sessionId events).AnnotatedAssistant := by
  induction events using List.reverseRecOn with
  | nil =>
      intro row hsome
      exact absurd rfl hsome
  | append_singleton events event ih =>
      rw [projectorAfter_append]
      exact ih.step (wellKept_projectorAfter sessionId events) event

end DevCommandCenter.Timeline
