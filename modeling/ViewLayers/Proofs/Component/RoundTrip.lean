import Mathlib.Tactic.Common
import ViewLayers.Component.Document
import ViewLayers.Proofs.Dict

/-!
Documents are read back. A document gives the component and each route in it as an object or as the
array of its fields, one level this way and another that way. What is read does not depend on it:
where `toJson` writes objects throughout, `laidOut` writes arrays at the levels of one's choice, and
both are read back as what was written. So reading and writing a document a second time changes
nothing.
-/

namespace ViewLayers

open Json

/-! ### The parts of a record -/

namespace Json

variable {α β : Type}

@[simp] lemma ok_bind (a : α) (f : α → Result β) : (Except.ok a : Result α) >>= f = f a := rfl

@[simp] lemma require_some (name : String) (a : α) : require name (some a) = .ok a := rfl

variable {read : Json → Result α} {write : α → Json}

lemma entriesOf_map (h : ∀ a, read (write a) = .ok a) (es : List (String × α)) :
    entriesOf read (es.map fun e => (e.1, write e.2)) = .ok es := by
  induction es with
  | nil => rfl
  | cons e es ih => simp only [List.map_cons, entriesOf, h, ih]; rfl

lemma toDict_map (h : ∀ a, read (write a) = .ok a) (d : Dict α) :
    toDict read (.object (d.map write).entries) = .ok d := by
  rw [toDict, Dict.map, entriesOf_map h]
  exact congrArg _ d.ofList_entries

@[simp] lemma toText_string (s : String) : toText (.string s) = .ok s := rfl

@[simp] lemma toPath_string (s : String) : toPath (.string s) = .ok ⟨s⟩ := rfl

@[simp] lemma toOption_ofPath? (p : Option Path) : toOption toPath (.ofPath? p) = .ok p := by
  cases p <;> rfl

/-- A record as the array of its fields, in the order of `names`. -/
def arranged (names : List String) : Json → Json
  | .object fields => .array (names.filterMap fun name => fields.lookup name)
  | v => v

end Json

namespace Concerns

lemma variantOf_label (k : Concern) : variantOf Concern.labels k.label = .ok k := by
  cases k <;> rfl

lemma ext_get {c d : Concerns} (h : ∀ k, c.get k = d.get k) : c = d := by
  obtain ⟨a, p, e, i⟩ := c
  obtain ⟨a', p', e', i'⟩ := d
  obtain ⟨rfl, rfl, rfl, rfl⟩ : a = a' ∧ p = p' ∧ e = e' ∧ i = i' :=
    ⟨h .async, h .placeholder, h .error, h .i18n⟩
  rfl

lemma readEntries_filterMap (c : Concerns) (ks : List Concern) (d : Concerns) :
    readEntries (ks.filterMap fun k => (c.get k).map fun p => (k.label, .string p.text)) d =
      .ok (ofFunction fun k => if k ∈ ks then (c.get k).or (d.get k) else d.get k) := by
  induction ks generalizing d with
  | nil => exact congrArg _ (ext_get fun k => by simp)
  | cons k ks ih =>
    rcases hk : c.get k with _ | p
    · rw [List.filterMap_cons_none (by rw [hk]; rfl), ih]
      refine congrArg _ (ext_get fun k' => ?_)
      by_cases h : k' = k <;> simp [h, hk]
    · rw [List.filterMap_cons_some (by rw [hk]; rfl), readEntries, variantOf_label]
      refine (ih (d.set k p)).trans (congrArg _ (ext_get fun k' => ?_))
      by_cases h : k' = k <;> simp [h, hk, get_set]

lemma ofJson_toJson (c : Concerns) : ofJson c.toJson = .ok c := by
  rw [toJson, ofJson, readEntries_filterMap]
  exact congrArg _ (ext_get fun k => by cases k <;> simp)

end Concerns

/-! ### Routes -/

namespace Route

mutual

/-- A route as an object, and as an array wherever that is asked for: at `[]` here, at `i :: p` at
`p` within the `i`-th of its children. -/
def laidOut (asArray : List Nat → Bool) : Route → Json
  | ⟨segment, pattern, directory, view, loader, metadata, children⟩ =>
    let object : Json :=
      .object [("children", .array (listLaidOut asArray 0 children)),
        ("directory", .string directory.text), ("loaderFilePath", .ofPath? loader),
        ("metaFilePath", .ofPath? metadata), ("resolvedPath", .string pattern),
        ("segment", .string segment), ("viewFilePath", .ofPath? view)]
    if asArray [] then object.arranged fieldNames else object

/-- Routes side by side, from the `i`-th on. -/
def listLaidOut (asArray : List Nat → Bool) (i : Nat) : List Route → List Json
  | [] => []
  | r :: rs => r.laidOut (fun p => asArray (i :: p)) :: listLaidOut asArray (i + 1) rs

end

mutual

lemma laidOut_false : (r : Route) → r.laidOut (fun _ => false) = r.toJson
  | ⟨_, _, _, _, _, _, children⟩ => by
    simp only [laidOut, toJson, listLaidOut_false children 0, Bool.false_eq_true, if_false]

lemma listLaidOut_false : (rs : List Route) → (i : Nat) →
    listLaidOut (fun _ => false) i rs = listToJson rs
  | [], _ => rfl
  | r :: rs, i => by
    simp only [listLaidOut, listToJson, laidOut_false r, listLaidOut_false rs]

end

lemma readField_of_ne {name : String} (h : name ≠ "children") (d : Draft) (v : Json) :
    readField d name v = readField.readPlainField d name v := by
  cases v with
  | array items => simp [readField, h]
  | _ => simp [readField]

lemma readField_children (d : Draft) {items : List Json} {children : List Route}
    (h : listOfJson items = .ok children) :
    readField d "children" (.array items) = .ok { d with children := children } := by
  simp [readField, h]

mutual

lemma ofJson_laidOut : (r : Route) → (asArray : List Nat → Bool) →
    ofJson (r.laidOut asArray) = .ok r
  | ⟨segment, pattern, directory, view, loader, metadata, children⟩, asArray => by
    have hchildren := fun d => readField_children d (listOfJson_listLaidOut children asArray 0)
    rw [laidOut]
    split
    · simp [arranged, fieldNames, List.lookup_cons, ofJson, readItems, readField_of_ne,
        readField.readPlainField, hchildren, requiredFields, Draft.finish]
    · simp [ofJson, readFields, readField_of_ne, readField.readPlainField, hchildren, Draft.finish]

lemma listOfJson_listLaidOut : (rs : List Route) → (asArray : List Nat → Bool) → (i : Nat) →
    listOfJson (listLaidOut asArray i rs) = .ok rs
  | [], _, _ => rfl
  | r :: rs, asArray, i => by
    rw [listLaidOut, listOfJson, ofJson_laidOut r, listOfJson_listLaidOut rs]
    rfl

end

end Route

namespace Component

def laidOut (asArray : List Nat → Bool) (c : Component) : Json :=
  let object : Json :=
    .object [("concerns", c.concerns.toJson), ("directory", .string c.directory.text),
      ("name", .string c.name), ("routes", .array (Route.listLaidOut asArray 0 c.routes)),
      ("skins", .object (c.skins.map fun p => Json.string p.text).entries),
      ("viewFilePath", .string c.view.text)]
  if asArray [] then object.arranged fieldNames else object

lemma laidOut_false (c : Component) : c.laidOut (fun _ => false) = c.toJson := by
  simp only [laidOut, toJson, Route.listLaidOut_false, Bool.false_eq_true, if_false]

lemma ofJson_laidOut (c : Component) (asArray : List Nat → Bool) :
    ofJson (c.laidOut asArray) = .ok c := by
  have hskins : toDict toPath (.object (c.skins.map fun p => Json.string p.text).entries) =
      .ok c.skins := toDict_map (fun p => toPath_string p.text) c.skins
  have hroutes := Route.listOfJson_listLaidOut c.routes asArray 0
  rw [laidOut]
  split
  · simp [arranged, fieldNames, List.lookup_cons, ofJson, readFields, readField, requiredFields,
      hskins, hroutes, Concerns.ofJson_toJson, Draft.finish]
  · simp [ofJson, readFields, readField, hskins, hroutes, Concerns.ofJson_toJson, Draft.finish]

/-- **What is written is read back**, whichever of its records are arrays, and what has been read
and written once stays as it is. -/
theorem reads_back :
    (∀ c : Component, ofJson c.toJson = .ok c) ∧
      (∀ c : Component, c.laidOut (fun _ => false) = c.toJson) ∧
      (∀ (c : Component) asArray, ofJson (c.laidOut asArray) = ofJson c.toJson) ∧
      ∀ v w, (ofJson v).map toJson = .ok w → (ofJson w).map toJson = .ok w := by
  have hback : ∀ c, ofJson c.toJson = .ok c := fun c =>
    c.laidOut_false ▸ c.ofJson_laidOut fun _ => false
  refine ⟨hback, laidOut_false, fun c asArray => ?_, fun v w hw => ?_⟩
  · rw [ofJson_laidOut, hback]
  · rcases hv : ofJson v with fault | c
    · rw [hv] at hw
      cases hw
    · obtain rfl : c.toJson = w := by
        rw [hv] at hw
        injection hw
      rw [hback]
      rfl

/-- A component with two routes, one below the other. -/
def card : Component :=
  ⟨"card", ⟨"c/card"⟩, ⟨"c/card/index.tsx"⟩, .none, ∅,
    [⟨"posts", "posts", ⟨"r"⟩, none, none, none,
      [⟨"@id", ":id", ⟨"r/[@id]"⟩, none, some ⟨"r/[@id]/async.ts"⟩, none, []⟩]⟩]⟩

/-- The same with fields left out and one that means nothing, an object with an array in it and an
object in that. -/
def abridgedCard : Json :=
  .object [("directory", .string "c/card"), ("name", .string "card"),
    ("routes", .array [.array [.string "posts", .string "posts", .string "r", .null, .null, .null,
      .array [.object [("directory", .string "r/[@id]"),
        ("loaderFilePath", .string "r/[@id]/async.ts"), ("resolvedPath", .string ":id"),
        ("segment", .string "@id"), ("since", .int 3)]]]]),
    ("viewFilePath", .string "c/card/index.tsx")]

theorem reads_back_abridged : (ofJson abridgedCard).map toJson = .ok card.toJson ∧
    (ofJson card.toJson).map toJson = .ok card.toJson := by
  have h : (ofJson abridgedCard).map toJson = .ok card.toJson := by cbv
  exact ⟨h, reads_back.2.2.2 _ _ h⟩

end Component

end ViewLayers
