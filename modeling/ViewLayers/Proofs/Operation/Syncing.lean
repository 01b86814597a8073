import ViewLayers.Operation.RouteData
import ViewLayers.Proofs.Dict
import ViewLayers.Proofs.Json.Writing
import ViewLayers.Proofs.Operation.Replaying

/-!
When a route's data is loaded anew. Parameters can always be written, and what they are written as
tells them apart, so a sync starts the route's operation exactly when its parameters are not those
of the sync before it, whatever was done with the handler in between.
-/

namespace ViewLayers

namespace RouteParams

variable {p q : RouteParams} {t : String}

lemma exists_writeFields (es : List (String × Option String)) :
    ∃ ts, Json.Data.writeFields (es.map field) = .ok ts := by
  induction es with
  | nil => exact ⟨[], rfl⟩
  | cons e es ih =>
    obtain ⟨ts, hts⟩ := ih
    obtain ⟨t, ht⟩ : ∃ t, (e.2.elim .null .text : Json.Data).write = .ok t := by
      cases e.2 <;> exact ⟨_, rfl⟩
    exact ⟨_, Json.Data.writeFields_cons_eq_ok_iff.2 ⟨e.1, t, ts, rfl, ht, hts, rfl⟩⟩

/-- **Parameters can always be written.** -/
theorem exists_text (p : RouteParams) : ∃ t, p.text? = .ok t := by
  obtain ⟨ts, hts⟩ := exists_writeFields p.entries
  exact ⟨_, Json.Data.write_map_eq_ok_iff.2 ⟨ts, hts, rfl⟩⟩

lemma field_injective : Function.Injective field := by
  rintro ⟨name, v⟩ ⟨name', v'⟩ h
  obtain ⟨hname, hvalue⟩ := Prod.mk.inj h
  obtain rfl : name = name' := Json.Data.text.inj hname
  -- an absent value is null, and no text is
  rcases v with _ | s <;> rcases v' with _ | s' <;> cases hvalue <;> rfl

/-- **Parameters that are written alike are the same.** -/
theorem text?_inj (hp : p.text? = .ok t) (hq : q.text? = .ok t) : p = q := by
  have hfields := Json.Data.map.inj (Json.Data.write_inj hp hq)
  exact Dict.ext (List.map_injective_iff.2 field_injective hfields)

end RouteParams

namespace Handler

variable {A ε α : Type}

structure Called (h h' : Handler A ε α) (args : A) : Prop where
  calls : h'.calls = h.calls ++ [args]
  lastArgs : h'.lastArgs? = some args
  held : h'.watching.tracker.held = some h.watching.tracker.guards.length
  phase : h'.watching.tracker.lifecycle.phase = .pending

lemma called_invoke (h : Handler A ε α) (args : A) (o : Option (Outcome ε α)) :
    Called h (h.invoke (.mk args o .nothing .nothing)) args where
  calls := by simp [invoke, duringCall, beginCall, endCall]
  lastArgs := by simp [invoke, duringCall, beginCall, endCall, lastArgs?, Request.args]
  held := by
    simp [invoke, duringCall, beginCall, endCall, Watching.addSettlement, Watching.addGate,
      Watching.beginWatch]
  phase := by
    simp [invoke, duringCall, beginCall, endCall, Watching.addSettlement, Watching.addGate,
      Watching.beginWatch]

lemma settlements_invoke (h : Handler A ε α) (args : A) (o : Option (Outcome ε α)) :
    (h.invoke (.mk args o .nothing .nothing)).watching.settlements = h.watching.settlements ++
      [some ⟨h.watching.tracker.guards.length, h.watching.gates.length⟩] := by
  simp [invoke, duringCall, beginCall, endCall, Watching.addSettlement, Watching.addGate,
    Watching.beginWatch]

lemma called_beginStart (h : Handler A ε α) (args : A) (o : Option (Outcome ε α)) :
    Called h (h.beginStart args o) args where
  calls := rfl
  lastArgs := rfl
  held := by simp [beginStart, Watching.beginStart, Watching.addGate, Watching.beginWatch]
  phase := rfl

lemma starting_beginStart (h : Handler A ε α) (args : A) (o : Option (Outcome ε α)) :
    (h.beginStart args o).watching.starting = h.watching.starting ++
      [some ⟨h.watching.tracker.guards.length, h.watching.gates.length⟩] := by
  simp [beginStart, Watching.beginStart, Watching.addGate, Watching.beginWatch]

end Handler

namespace RouteData

variable {ε α : Type} {l l' : RouteData ε α} {p : RouteParams} {last : Option RouteParams}

/-! ### Runs -/

def run (l : RouteData ε α) (es : List (Event ε α)) : Option (RouteData ε α) := runBy step l es

/-- The parameters that an event syncs with. -/
def Event.synced? : Event ε α → Option RouteParams
  | .sync p | .startSync p _ => some p
  | _ => none

/-- The parameters of the last sync. -/
def lastSynced? (es : List (Event ε α)) : Option RouteParams :=
  (es.filterMap Event.synced?).getLast?

lemma lastSynced?_concat (es : List (Event ε α)) (e : Event ε α) :
    lastSynced? (es ++ [e]) = e.synced?.or (lastSynced? es) := by
  rw [lastSynced?, lastSynced?, List.filterMap_append, List.getLast?_append]
  cases he : e.synced? <;> simp [he]

/-! ### What is kept -/

/-- The text that is kept is that of the parameters, if there are any. -/
def Keeps (l : RouteData ε α) (last : Option RouteParams) : Prop :=
  last.map RouteParams.text? = l.lastText.map .ok

lemma keep?_of_same (hk : l.Keeps (some p)) : l.keep? p = .ok none := by
  obtain ⟨t, ht⟩ := p.exists_text
  have hlast : l.lastText = some t := by
    cases hl : l.lastText with
    | none => simp [Keeps, hl] at hk
    | some s =>
      rw [Keeps, hl, Option.map_some, Option.map_some, ht] at hk
      cases hk
      rfl
  simp [keep?, ht, hlast, Except.map]

lemma keep?_of_ne (hk : l.Keeps last) (hne : last ≠ some p) :
    ∃ t, p.text? = .ok t ∧ l.keep? p = .ok (some { l with lastText := some t }) := by
  obtain ⟨t, ht⟩ := p.exists_text
  have hlast : l.lastText ≠ some t := by
    intro hl
    rw [Keeps, hl] at hk
    obtain ⟨q, rfl, hq⟩ := Option.map_eq_some_iff.1 hk
    exact hne (congrArg some (RouteParams.text?_inj hq ht))
  exact ⟨t, ht, by simp [keep?, ht, hlast, Except.map]⟩

lemma sync_of_same (hk : l.Keeps (some p)) : l.sync p = .ok (none, l) := by
  rw [sync, keep?_of_same hk]
  rfl

lemma sync_of_ne (hk : l.Keeps last) (hne : last ≠ some p) :
    ∃ t, p.text? = .ok t ∧ l.sync p = .ok (some l.handler.size,
      { l with lastText := some t, handler := l.handler.invoke (l.request p) }) := by
  obtain ⟨t, ht, hkeep⟩ := keep?_of_ne hk hne
  have hsize : (l.handler.invoke (l.request p)).size = l.handler.size + 1 := by
    rw [Handler.size, request, Handler.settlements_invoke, List.length_append]
    rfl
  refine ⟨t, ht, ?_⟩
  rw [sync, hkeep, ← Nat.add_sub_cancel (n := l.handler.size) (m := 1), ← hsize]
  rfl

lemma beginSync_of_same (hk : l.Keeps (some p)) (o : Option (Outcome ε α)) :
    l.beginSync p o = .ok (none, l) := by
  rw [beginSync, keep?_of_same hk]
  rfl

lemma beginSync_of_ne (hk : l.Keeps last) (hne : last ≠ some p) (o : Option (Outcome ε α)) :
    ∃ t, p.text? = .ok t ∧ l.beginSync p o = .ok (some l.handler.watching.starting.length,
      { l with lastText := some t, handler := l.handler.beginStart p o }) := by
  obtain ⟨t, ht, hkeep⟩ := keep?_of_ne hk hne
  refine ⟨t, ht, ?_⟩
  rw [beginSync, hkeep]
  rfl

lemma onHandler_eq_some_iff {e : Handler.Event RouteParams ε α} {a : Handler.Answer ε} :
    l.onHandler e = some (a, l') ↔
      ∃ h, l.handler.step e = some (a, h) ∧ l' = { l with handler := h } := by
  simp only [onHandler, Option.map_eq_some_iff, Prod.exists, Prod.mk.injEq]
  grind

lemma answer_eq_some_iff {r : Except Json.Unwritable (Option Nat × RouteData ε α)}
    {a : Handler.Answer ε} : answer r = some (a, l') ↔
      ∃ n, r = .ok (n, l') ∧ a = .plain (.numberIfAny n) := by
  cases r with
  | ok x => simp [answer, Except.toOption]; grind
  | error e => simp [answer, Except.toOption]

lemma keeps_of_answer {r : Except Json.Unwritable (Option Nat × RouteData ε α)}
    {a : Handler.Answer ε} (hk : l.Keeps last) (hsame : last = some p → r = .ok (none, l))
    (hne : last ≠ some p → ∃ t n h, p.text? = .ok t ∧
      r = .ok (n, { l with lastText := some t, handler := h }))
    (ha : answer r = some (a, l')) : l'.Keeps (some p) := by
  obtain ⟨n, hr, -⟩ := answer_eq_some_iff.1 ha
  by_cases hlast : last = some p
  · cases hr.symm.trans (hsame hlast)
    exact hlast ▸ hk
  · obtain ⟨t, n', h, ht, hr'⟩ := hne hlast
    cases hr.symm.trans hr'
    exact congrArg some ht

/-- **Only a sync changes what is kept**, to its own parameters. -/
lemma keeps_step {e : Event ε α} {a : Handler.Answer ε} (hk : l.Keeps last)
    (hs : l.step e = some (a, l')) : l'.Keeps (e.synced?.or last) := by
  have honHandler : ∀ {e}, l.onHandler e = some (a, l') → l'.Keeps last := by
    intro e h
    obtain ⟨h', -, rfl⟩ := onHandler_eq_some_iff.1 h
    exact hk
  cases e with
  | sync p =>
    refine keeps_of_answer hk (fun h => sync_of_same (h ▸ hk)) (fun h => ?_) hs
    obtain ⟨t, ht, hsync⟩ := sync_of_ne hk h
    exact ⟨t, _, _, ht, hsync⟩
  | startSync p o =>
    refine keeps_of_answer hk (fun h => beginSync_of_same (h ▸ hk) o) (fun h => ?_) hs
    obtain ⟨t, ht, hsync⟩ := beginSync_of_ne hk h o
    exact ⟨t, _, _, ht, hsync⟩
  | invoke p =>
    cases hs
    exact hk
  | errorRetry =>
    rw [step] at hs
    split at hs <;> cases hs <;> exact hk
  | other e =>
    rw [step] at hs
    split at hs
    · cases hs
    · exact honHandler hs
  | retry | abort | reset | poll _ | forget _ | settle _ _ | abandon _ _ => exact honHandler hs

lemma keeps_run {es : List (Event ε α)} (hk : l.Keeps last) (hr : l.run es = some l') :
    l'.Keeps ((lastSynced? es).or last) := by
  refine runBy_invariant (P := fun es t => t.Keeps ((lastSynced? es).or last)) hk
    (fun ht hstep => ?_) hr
  rw [lastSynced?_concat, Option.or_assoc]
  exact keeps_step ht hstep

/-! ### What a sync comes to -/

/-- What a sync with `p` comes to after the events `es`: the number of what it starts, if it starts
anything, which stands at that number among the `started`. -/
structure Syncs (es : List (Event ε α)) (l : RouteData ε α) (p : RouteParams) (n : Option Nat)
    (l' : RouteData ε α) (started : List (Option Settlement)) : Prop where
  /-- It starts something iff it is the first sync, or its parameters differ from those of the last
  one at some name. -/
  starts_iff : n ≠ none ↔ lastSynced? es = none ∨
    ∃ q, lastSynced? es = some q ∧ ∃ name, p.get? name ≠ q.get? name
  unchanged : n = none → l' = l
  called : n ≠ none → l.handler.Called l'.handler p
  started : ∀ i, n = some i → ∃ gate,
    started[i]? = some (some ⟨l.handler.watching.tracker.guards.length, gate⟩)

lemma lastSynced?_ne_some_iff {es : List (Event ε α)} : lastSynced? es ≠ some p ↔
    lastSynced? es = none ∨ ∃ q, lastSynced? es = some q ∧ ∃ name, p.get? name ≠ q.get? name := by
  cases lastSynced? es with
  | none => simp
  | some q =>
    have hdiffers : q ≠ p ↔ ∃ name, p.get? name ≠ q.get? name := by
      rw [← not_forall, not_iff_not]
      exact ⟨fun h => h ▸ fun _ => rfl, fun h => (Dict.ext_get? h).symm⟩
    simpa using hdiffers

lemma syncs_of_same {es : List (Event ε α)} (hsame : lastSynced? es = some p)
    (started : List (Option Settlement)) : Syncs es l p none l started where
  starts_iff := by
    rw [← lastSynced?_ne_some_iff, hsame]
    exact iff_of_false (fun h => h rfl) (fun h => h rfl)
  unchanged := fun _ => rfl
  called := fun h => absurd rfl h
  started := fun i hi => by cases hi

lemma syncs_of_ne {es : List (Event ε α)} (hne : lastSynced? es ≠ some p)
    (hcalled : l.handler.Called l'.handler p) {before : List (Option Settlement)} {gate : Nat} :
    Syncs es l p (some before.length) l'
      (before ++ [some ⟨l.handler.watching.tracker.guards.length, gate⟩]) where
  starts_iff := iff_of_true (Option.some_ne_none _) (lastSynced?_ne_some_iff.1 hne)
  unchanged := fun h => absurd h (Option.some_ne_none _)
  called := fun _ => hcalled
  started := fun i hi => by
    cases hi
    exact ⟨gate, List.getElem?_concat_length⟩

/-- **A sync loads exactly when the parameters change.** After every run on the data of a route,
whose handler may have been used before: a sync succeeds, also if anything comes between the call of
the operation and its start. -/
theorem syncs_on_change {h : Handler RouteParams ε α} {f : RouteParams → Option (Outcome ε α)}
    {es : List (Event ε α)} (hr : run { handler := h, outcome := f } es = some l)
    (p : RouteParams) :
    (∃ n l', l.sync p = .ok (n, l') ∧ Syncs es l p n l' l'.handler.watching.settlements) ∧
      ∀ o, ∃ n l', l.beginSync p o = .ok (n, l') ∧
        Syncs es l p n l' l'.handler.watching.starting := by
  have hk : l.Keeps (lastSynced? es) := by
    have hnone : Keeps { handler := h, outcome := f } none := rfl
    simpa using keeps_run hnone hr
  by_cases hsame : lastSynced? es = some p
  · rw [hsame] at hk
    exact ⟨⟨none, l, sync_of_same hk, syncs_of_same hsame _⟩,
      fun o => ⟨none, l, beginSync_of_same hk o, syncs_of_same hsame _⟩⟩
  · constructor
    · obtain ⟨t, -, hsync⟩ := sync_of_ne hk hsame
      refine ⟨_, _, hsync, ?_⟩
      rw [request, Handler.settlements_invoke]
      exact syncs_of_ne hsame (Handler.called_invoke _ _ _)
    · intro o
      obtain ⟨t, -, hsync⟩ := beginSync_of_ne hk hsame o
      refine ⟨_, _, hsync, ?_⟩
      rw [Handler.starting_beginStart]
      exact syncs_of_ne hsame (Handler.called_beginStart _ _ _)

/-- Parameters with an absent one, and then with the text null in its place. -/
def absentThenNull : List (Event String Nat) := [.sync (Dict.ofList [("id", none)]), .abort,
  .invoke (Dict.ofList [("id", none)]), .startSync (Dict.ofList [("id", some "null")]) none,
  .poll 0, .other (.started 0), .reset]

/-- What is absent is told from the text null, whatever the handler was last invoked with. -/
theorem syncs_on_change_of_null : ∃ l : RouteData String Nat,
    run { handler := {}, outcome := fun _ => none } absentThenNull = some l ∧
    l.sync (Dict.ofList [("id", some "null")]) = .ok (none, l) ∧
    ∃ i l', l.sync (Dict.ofList [("id", none)]) = .ok (some i, l') ∧
      l'.handler.calls = l.handler.calls ++ [Dict.ofList [("id", none)]] := by
  have hsome : (run { handler := {}, outcome := fun _ => none } absentThenNull).isSome = true := rfl
  obtain ⟨l, hr⟩ := Option.isSome_iff_exists.1 hsome
  have hlast : lastSynced? absentThenNull = some (Dict.ofList [("id", some "null")]) := rfl
  obtain ⟨⟨n, l₁, hsame, hn⟩, -⟩ := syncs_on_change hr (Dict.ofList [("id", some "null")])
  obtain ⟨⟨i, l₂, hother, hi⟩, -⟩ := syncs_on_change hr (Dict.ofList [("id", none)])
  have hnone : n = none := by
    by_contra hne
    exact lastSynced?_ne_some_iff.2 (hn.starts_iff.1 hne) hlast
  obtain ⟨i, rfl⟩ : ∃ j, i = some j := by
    refine Option.ne_none_iff_exists'.1 (hi.starts_iff.2 (.inr ⟨_, hlast, "id", ?_⟩))
    decide
  subst hnone
  rw [hn.unchanged rfl] at hsame
  exact ⟨l, hr, hsame, i, l₂, hother, (hi.called (Option.some_ne_none i)).calls⟩

end RouteData

end ViewLayers
