import ViewLayers.Proofs.Localization.LastWrite

/-!
One slot a key. What a cache does for one key stays out of the answers for every other, so two pairs
of a locale and a namespace interfere exactly when they are joined to one text.
-/

namespace ViewLayers.MessageCache

variable {c c' d : MessageCache} {e : Event} {es : List Event} {a : Answer} {k k' : String}
  {x : CacheEntry} {locale ns locale' ns' : String}

/-! ### Keys -/

/-- A pair is joined to the same text as another whose locale is longer: the longer one takes a
colon and what stands before the first pair's namespace. -/
def Overlaps (locale ns locale' ns' : String) : Prop :=
  ∃ s, locale' = locale ++ ":" ++ s ∧ ns = s ++ ":" ++ ns'

lemma toList_key (locale ns : String) :
    (key locale ns).toList = locale.toList ++ ':' :: ns.toList := by
  simp [key]

lemma Overlaps.key_eq (h : Overlaps locale ns locale' ns') :
    key locale ns = key locale' ns' := by
  obtain ⟨s, rfl, rfl⟩ := h
  simp only [key, String.append_assoc]

/-- If one locale begins another and the texts go on alike, it is either the same or takes the first
colon. -/
lemma eq_or_overlaps {s : List Char}
    (hlocale : locale'.toList = locale.toList ++ s)
    (hrest : ':' :: ns.toList = s ++ ':' :: ns'.toList) :
    (locale, ns) = (locale', ns') ∨ Overlaps locale ns locale' ns' := by
  cases s with
  | nil =>
    obtain rfl : locale' = locale := String.toList_inj.1 (hlocale.trans (List.append_nil _))
    obtain rfl : ns = ns' := String.toList_inj.1 (List.cons.inj hrest).2
    exact .inl rfl
  | cons colon s =>
    obtain ⟨rfl, hns⟩ := List.cons.inj hrest
    refine .inr ⟨String.ofList s, ?_, ?_⟩
    · rw [← String.toList_inj, hlocale]
      simp
    · rw [← String.toList_inj, hns]
      simp

/-- **Which pairs share a key.** -/
lemma key_eq_iff : key locale ns = key locale' ns' ↔
    (locale, ns) = (locale', ns') ∨ Overlaps locale ns locale' ns' ∨
      Overlaps locale' ns' locale ns := by
  constructor
  · intro h
    have hkeys := congrArg String.toList h
    rw [toList_key, toList_key] at hkeys
    rcases List.append_eq_append_iff.1 hkeys with ⟨s, hlocale, hrest⟩ | ⟨s, hlocale, hrest⟩
    · rcases eq_or_overlaps hlocale hrest with heq | hoverlaps
      · exact .inl heq
      · exact .inr (.inl hoverlaps)
    · rcases eq_or_overlaps hlocale hrest with heq | hoverlaps
      · exact .inl heq.symm
      · exact .inr (.inr hoverlaps)
  · rintro (h | h | h)
    · cases h
      rfl
    · exact h.key_eq
    · exact h.key_eq.symm

lemma Overlaps.count_lt (h : Overlaps locale ns locale' ns') :
    locale.toList.count ':' < locale'.toList.count ':' := by
  obtain ⟨s, rfl, -⟩ := h
  simp only [String.toList_append, List.count_append]
  have hcolon : ":".toList.count ':' = 1 := by decide
  omega

/-! ### Answers -/

inductive Found where
  | ready (messages : Messages)
  | loading (load : Nat)
  | created

/-- What a lookup answers, up to the number of a new load or pending answer. -/
def find? (c : MessageCache) (locale ns : String) (loader : Loader) : Option Found :=
  match c.step (.lookup locale ns loader) with
  | some (.ready m, _) => some (.ready m)
  | some (.pending n, d) =>
    if d.loads.length = c.loads.length then d.pendings[n]?.join.map .loading else some .created
  | _ => none

structure SameAnswers (c d : MessageCache) (locale ns : String) : Prop where
  get : (c.step (.get locale ns)).map Prod.fst = (d.step (.get locale ns)).map Prod.fst
  isLoading :
    (c.step (.isLoading locale ns)).map Prod.fst = (d.step (.isLoading locale ns)).map Prod.fst
  find? : ∀ loader, c.find? locale ns loader = d.find? locale ns loader

lemma SameAnswers.refl (c : MessageCache) (locale ns : String) : SameAnswers c c locale ns :=
  ⟨rfl, rfl, fun _ => rfl⟩

lemma SameAnswers.trans (h : SameAnswers c c' locale ns) (h' : SameAnswers c' d locale ns) :
    SameAnswers c d locale ns :=
  ⟨h.get.trans h'.get, h.isLoading.trans h'.isLoading, fun l => (h.find? l).trans (h'.find? l)⟩

lemma find?_eq (halive : c.isAlive = true) (loader : Loader) : c.find? locale ns loader =
    some (match c.entries.get? (key locale ns) with
      | some (.ready m) => .ready m
      | some (.loading i) => .loading i
      | none => .created) := by
  rcases h : c.entries.get? (key locale ns) with _ | (m | i) <;>
    simp [find?, step, if_pos halive, lookup, h, addPending]

/-- Nothing is answered once the cache itself is dropped. -/
lemma SameAnswers.of_dropped (hc : c.isAlive ≠ true) (hd : d.isAlive ≠ true) (locale ns : String) :
    SameAnswers c d locale ns := by
  refine ⟨?_, ?_, fun loader => ?_⟩
  · rw [step, step, if_neg hc, if_neg hd]
  · rw [step, step, if_neg hc, if_neg hd]
  · rw [MessageCache.find?, MessageCache.find?, step, step, if_neg hc, if_neg hd]

lemma SameAnswers.of_entry (halive : d.isAlive = c.isAlive) (hentry : c.isAlive = true →
    d.entries.get? (key locale ns) = c.entries.get? (key locale ns)) :
    SameAnswers c d locale ns := by
  by_cases hc : c.isAlive = true
  · have hd : d.isAlive = true := halive.trans hc
    refine ⟨?_, ?_, fun loader => ?_⟩
    · simp only [step, if_pos hc, if_pos hd, MessageCache.get?, hentry hc, Option.map_some]
    · simp only [step, if_pos hc, if_pos hd, MessageCache.isLoading, hentry hc, Option.map_some]
    · rw [find?_eq hc, find?_eq hd, hentry hc]
  · exact .of_dropped hc (halive ▸ hc) locale ns

/-! ### What a step is about -/

/-- A step is about a key: messages are put in or looked up there, or a load of it is polled. -/
def Concerns (c : MessageCache) (k : String) : Event → Prop
  | .insert locale ns _ | .lookup locale ns _ => key locale ns = k
  | .poll n => ∃ i s, c.pendings[n]? = some (some i) ∧ c.loads[i]? = some ⟨k, s⟩
  | _ => False

lemma Concerns.eq (h : c.Concerns k e) (h' : c.Concerns k' e) : k = k' := by
  cases e with
  | insert => exact h.symm.trans h'
  | lookup => exact h.symm.trans h'
  | poll n =>
    obtain ⟨i, s, hn, hi⟩ := h
    obtain ⟨j, s', hn', hj⟩ := h'
    obtain rfl : i = j := by simpa [hn] using hn'
    simpa [hi] using congrArg (Option.map Load.key) hj
  | _ => cases h

lemma concerns_of_leaves (h : c.Leaves k x e) : c.Concerns k e := by
  cases e with
  | insert => exact h.1
  | lookup => exact h.1
  | poll n =>
    obtain ⟨i, s, r, hn, hi, -⟩ := h
    exact ⟨i, s, hn, hi⟩
  | _ => cases h

lemma Change.isAlive_eq (h : c.Change e c') (hdrop : e ≠ .drop) : c'.isAlive = c.isAlive := by
  cases h with
  | drop => exact absurd rfl hdrop
  | finish => exact isAlive_store ..
  | _ => rfl

lemma sameAnswers_step (hstep : c.step e = some (a, c')) (hclear : e ≠ .clear) (hdrop : e ≠ .drop)
    (hnot : ¬ c.Concerns (key locale ns) e) : SameAnswers c c' locale ns := by
  have hleaves : ∀ x, ¬ c.Leaves (key locale ns) x e := fun x hx => hnot (concerns_of_leaves hx)
  have hwrites : ¬ c.Writes (key locale ns) e := fun h => by
    obtain ⟨x, hx⟩ := exists_leaves h hclear hdrop
    exact hleaves x hx
  have halive := (step_change hstep).isAlive_eq hdrop
  refine .of_entry halive fun h => Option.ext fun x => ?_
  rw [step_entry_iff hstep (halive.trans h)]
  constructor
  · rintro (hx | ⟨-, hx⟩)
    · exact absurd hx (hleaves x)
    · exact hx
  · exact fun hx => .inr ⟨hwrites, hx⟩

/-- No step of a run is about a key, and none clears the cache or drops it. -/
def Spares (k : String) : MessageCache → List Event → Prop
  | _, [] => True
  | c, e :: es => ¬ c.Concerns k e ∧ e ≠ .clear ∧ e ≠ .drop ∧
    ∀ a d, c.step e = some (a, d) → Spares k d es

lemma sameAnswers_run (hrun : c.run es = some d) (hspares : Spares (key locale ns) c es) :
    SameAnswers c d locale ns := by
  induction es generalizing c with
  | nil =>
    cases hrun
    exact .refl _ locale ns
  | cons e es ih =>
    obtain ⟨a, c', hstep, hrest⟩ := runBy_cons_eq_some_iff.1 hrun
    obtain ⟨hnot, hclear, hdrop, hspares⟩ := hspares
    exact (sameAnswers_step hstep hclear hdrop hnot).trans (ih hrest (hspares a c' hstep))

/-! ### Slots -/

/-- Whatever came before, no step about one pair changes the answers for the other. -/
def Apart (locale ns locale' ns' : String) : Prop :=
  ∀ es c e a d, run {} es = some c → c.Concerns (key locale ns) e → c.step e = some (a, d) →
    SameAnswers c d locale' ns'

lemma exists_insert (locale ns : String) (m : Messages) :
    ∃ d, step {} (.insert locale ns m) = some (.plain .nothing, d) ∧ ∀ locale' ns',
      key locale ns = key locale' ns' →
        d.step (.get locale' ns') = some (.messages (some m), d) := by
  obtain ⟨gates, hsweep, -⟩ := (insert {} (key locale ns) m).exists_sweep
  refine ⟨_, rfl, fun locale' ns' hkey => ?_⟩
  have hget : (insert {} (key locale ns) m).sweep.get? (key locale' ns') = some m := by
    rw [hsweep, get?_eq_some_iff, insert, Dict.get?_insert, if_pos hkey]
  rw [step, if_pos (by rw [hsweep]; rfl), hget]

lemma apart_iff :
    Apart locale ns locale' ns' ↔ key locale ns ≠ key locale' ns' := by
  constructor
  · -- what is put in for one of two pairs with one key is there for the other
    intro h heq
    obtain ⟨d, hstep, hget⟩ := exists_insert locale ns ∅
    have hsame := (h [] {} (.insert locale ns ∅) _ d rfl rfl hstep).get
    rw [hget locale' ns' heq] at hsame
    cases hsame
  · intro hne es c e a d hrun hconcerns hstep
    have hnot : ¬ c.Concerns (key locale' ns') e := fun h => hne (hconcerns.eq h)
    refine sameAnswers_step hstep ?_ ?_ hnot
    · rintro rfl
      cases hconcerns
    · rintro rfl
      cases hconcerns

/-- **Each key has a slot of its own.** What is done for one pair stays out of the answers for
another exactly where their keys differ, so wherever their locales have equally many colons; and
over a whole run, only steps about a pair's key or about all of the cache change the answers for
the pair. -/
theorem slots_apart (locale ns locale' ns' : String) :
    (Apart locale ns locale' ns' ↔ key locale ns ≠ key locale' ns') ∧
    (key locale ns = key locale' ns' ↔ (locale, ns) = (locale', ns') ∨
      Overlaps locale ns locale' ns' ∨ Overlaps locale' ns' locale ns) ∧
    (locale.toList.count ':' = locale'.toList.count ':' → (locale, ns) ≠ (locale', ns') →
      Apart locale ns locale' ns') ∧
    ∀ c es d, c.run es = some d → Spares (key locale' ns') c es →
      SameAnswers c d locale' ns' := by
  refine ⟨apart_iff, key_eq_iff, fun hcolons hne => ?_, fun c es d => sameAnswers_run⟩
  refine apart_iff.2 fun hkey => ?_
  rcases key_eq_iff.1 hkey with heq | hoverlaps | hoverlaps
  · exact hne heq
  · have := hoverlaps.count_lt
    omega
  · have := hoverlaps.count_lt
    omega

/-- Two pairs with one slot: what is put in for one is answered for the other. -/
theorem slot_shared_across_colon : ("a:b", "c") ≠ ("a", "b:c") ∧ ¬ Apart "a:b" "c" "a" "b:c" ∧
    step {} (.get "a" "b:c") = some (.messages none, {}) ∧
    ∃ d, step {} (.insert "a:b" "c" (Dict.ofList [("label", "Go")])) = some (.plain .nothing, d) ∧
      d.step (.get "a" "b:c") = some (.messages (some (Dict.ofList [("label", "Go")])), d) := by
  have hkey : key "a:b" "c" = key "a" "b:c" := by decide
  obtain ⟨d, hstep, hget⟩ := exists_insert "a:b" "c" (Dict.ofList [("label", "Go")])
  exact ⟨by decide, fun h => apart_iff.1 h hkey, rfl, d, hstep, hget "a" "b:c" hkey⟩

end ViewLayers.MessageCache
