import ViewLayers.Localization.Messages
import ViewLayers.Proofs.Dict

/-!
Loaded messages over the default ones. Two loaded keys can stand for one message, with the namespace
and without it; the one that comes last by its bytes decides. To put the loaded messages over the
result once more changes nothing.
-/

namespace ViewLayers.Messages

variable {defaults loaded : Messages} {ns key k : String}

/-! ### Keys without their namespace -/

/-- The key of a message is the loaded key without the namespace, which goes once, or else the
loaded key itself. -/
def StripsTo (ns key k : String) : Prop :=
  key = ns ++ "/" ++ k ∨ key = k ∧ ∀ rest, key ≠ ns ++ "/" ++ rest

lemma stripNamespace_eq_iff : stripNamespace ns key = k ↔ StripsTo ns key k := by
  have hstart : ∀ rest, key = ns ++ "/" ++ rest ↔
      key.toList = (ns ++ "/").toList ++ rest.toList := by
    intro rest
    rw [← String.toList_inj, String.toList_append]
  unfold stripNamespace
  dsimp only
  split
  · rename_i h
    obtain ⟨cs, hcs⟩ := List.isPrefixOf_iff_prefix.1 h
    have hkey : key = ns ++ "/" ++ String.ofList cs := by
      rw [hstart, ← hcs, String.toList_ofList]
    rw [← hcs, List.drop_left]
    constructor
    · rintro rfl
      exact .inl hkey
    · rintro (hk | ⟨-, hk⟩)
      · rw [hstart, ← hcs] at hk
        rw [List.append_cancel_left hk, String.ofList_toList]
      · exact absurd hkey (hk _)
  · rename_i h
    have hnot : ∀ rest, key ≠ ns ++ "/" ++ rest := by
      intro rest hk
      rw [hstart] at hk
      exact h (List.isPrefixOf_iff_prefix.2 ⟨rest.toList, hk.symm⟩)
    exact ⟨fun hk => .inr ⟨hk, hnot⟩, fun hk => hk.elim (fun hk => absurd hk (hnot k)) And.left⟩

/-! ### The value of a key -/

lemma get?_localize : (defaults.localize loaded ns).get? k =
    ((loaded.entries.reverse.find? fun e => stripNamespace ns e.1 == k).map (·.2)).or
      (defaults.get? k) := by
  have hfold : defaults.localize loaded ns =
      (loaded.entries.map fun e => (stripNamespace ns e.1, e.2)).foldl
        (fun d e => d.insert e.1 e.2) defaults := by
    rw [List.foldl_map]
    rfl
  rw [hfold, Dict.get?_foldl_insert, ← List.map_reverse, List.find?_map, Option.map_map]
  rfl

lemma stripNamespace_beq_iff (key : String) :
    (stripNamespace ns key == k) = true ↔ StripsTo ns key k := by
  rw [beq_iff_eq, stripNamespace_eq_iff]

/-! ### The result -/

structure Overlaid (defaults loaded : Messages) (ns : String) (m : Messages) : Prop where
  mem_keys_iff : ∀ k, k ∈ m.keys ↔ k ∈ defaults.keys ∨ ∃ key ∈ loaded.keys, StripsTo ns key k
  /-- The last of the loaded keys for one key gives the value, and the defaults where there is
  none. -/
  get?_eq : ∀ k, (∃ key, loaded.IsLast (StripsTo ns · k) key ∧ m.get? k = loaded.get? key) ∨
    (∀ key ∈ loaded.keys, ¬ StripsTo ns key k) ∧ m.get? k = defaults.get? k
  again : m.localize loaded ns = m

/-- **Loaded messages go over the defaults, of those for one key the last**, and once is enough. -/
theorem overlaid_localize (defaults loaded : Messages) (ns : String) :
    Overlaid defaults loaded ns (defaults.localize loaded ns) := by
  have hvalue : ∀ k, (∃ key, loaded.IsLast (StripsTo ns · k) key ∧
      (defaults.localize loaded ns).get? k = loaded.get? key) ∨
      (∀ key ∈ loaded.keys, ¬ StripsTo ns key k) ∧
        (defaults.localize loaded ns).get? k = defaults.get? k := by
    intro k
    rw [get?_localize]
    cases h : loaded.entries.reverse.find? fun e => stripNamespace ns e.1 == k with
    | some e =>
      obtain ⟨hlast, hget⟩ :=
        (Dict.find?_reverse_entries_eq_some_iff (p := (stripNamespace ns · == k))
          stripNamespace_beq_iff).1 h
      exact .inl ⟨e.1, hlast, hget.symm⟩
    | none =>
      exact .inr ⟨(Dict.find?_reverse_entries_eq_none_iff (p := (stripNamespace ns · == k))
        stripNamespace_beq_iff).1 h, rfl⟩
  refine ⟨fun k => ?_, hvalue, Dict.ext_get? fun k => ?_⟩
  · rcases hvalue k with ⟨key, hlast, hget⟩ | ⟨hnot, hget⟩
    · rw [Dict.mem_keys_iff, hget, ← Dict.mem_keys_iff]
      exact iff_of_true hlast.mem (.inr ⟨key, hlast.mem, hlast.prop⟩)
    · rw [Dict.mem_keys_iff, hget, ← Dict.mem_keys_iff]
      exact ⟨.inl, fun h => h.elim id fun ⟨key, hkey, hstrips⟩ => absurd hstrips (hnot key hkey)⟩
  · rw [get?_localize, get?_localize, ← Option.or_assoc, Option.or_self]

/-- The key with the namespace comes before the one without it, which decides. -/
example : (localize (.ofList [("label", "Click")])
    (.ofList [("button/label", "Clique"), ("label", "Cliquer")]) "button").get? "label" =
      some "Cliquer" := rfl

end ViewLayers.Messages
