import ViewLayers.Path.Spelling
import ViewLayers.Proofs.Path.Below
import ViewLayers.Proofs.Path.Places
import ViewLayers.Proofs.Text.Bytes

/-!
Paths of characters as paths of bytes. UTF-8 has slashes and dots for themselves and nowhere else,
so all that is done with paths comes to the same with their bytes. A path of bytes that is not the
UTF-8 of one is not read back from what it is written as.
-/

namespace ViewLayers

open Text

/-! ### Characters -/

namespace Path

lemma toNat_charOfByte (b : UInt8) : (charOfByte b).toNat = b.toNat := by
  have hlt : b.toNat < 256 := b.toNat_lt
  have hvalid : b.toNat.isValidChar := .inl (by omega)
  have hchar : charOfByte b = Char.ofNatAux b.toNat hvalid := dif_pos hvalid
  rw [hchar]
  rfl

lemma bytes_ofBytes (bs : List UInt8) : (ofBytes bs).bytes = bs := by
  have hbyte : ∀ b : UInt8, UInt8.ofNat (charOfByte b).toNat = b := fun b => by
    rw [toNat_charOfByte, UInt8.ofNat_toNat]
  rw [bytes, ofBytes, String.toList_ofList, List.map_map]
  exact (List.map_congr_left fun b _ => hbyte b).trans (List.map_id bs)

lemma bytes_utf8 (p : Path) : p.utf8.bytes = bytesOf p.text := bytes_ofBytes _

lemma utf8_inj {p q : Path} : p.utf8 = q.utf8 ↔ p = q := by
  refine ⟨fun h => ?_, congrArg utf8⟩
  have hbytes := congrArg bytes h
  rw [bytes_utf8, bytes_utf8, bytesOf_inj] at hbytes
  cases p
  cases q
  exact congrArg Path.mk hbytes

/-- A character by its bytes. -/
def encode (c : Char) : List Char := (String.utf8EncodeChar c).map charOfByte

lemma toList_utf8 (p : Path) : p.utf8.text.toList = p.text.toList.flatMap encode := by
  rw [utf8, ofBytes, String.toList_ofList, bytesOf_eq, List.map_flatMap]
  rfl

lemma encode_ne_nil (c : Char) : encode c ≠ [] :=
  fun h => String.utf8EncodeChar_ne_nil (List.map_eq_nil_iff.1 h)

/-- Only for themselves do characters stand that one byte is enough for. -/
lemma eq_of_mem_encode {c d : Char} (h : d ∈ encode c) (hd : d.toNat < 128) : d = c := by
  obtain ⟨b, hb, rfl⟩ := List.mem_map.1 h
  rw [toNat_charOfByte] at hd
  unfold String.utf8EncodeChar at hb
  dsimp only at hb
  split_ifs at hb with h₁ h₂ h₃
  · rw [List.mem_singleton] at hb
    have hlt : c.toNat ≤ 127 := h₁
    have hval : b.toNat = c.toNat := by
      rw [hb, UInt8.toNat_ofNat']
      exact Nat.mod_eq_of_lt (by omega)
    rw [← Char.toNat_inj, toNat_charOfByte, hval]
  all_goals
    simp only [List.mem_cons, List.not_mem_nil, or_false] at hb
    rcases hb with rfl | rfl | rfl | rfl <;> rw [UInt8.toNat_ofNat'] at hd <;> omega

lemma encode_slash : encode '/' = ['/'] := by decide

lemma slash_not_mem_encode {c : Char} (h : isSlash c = false) :
    ∀ d ∈ encode c, isSlash d = false := by
  intro d hd
  by_contra hslash
  obtain rfl : d = '/' := by simpa [isSlash] using hslash
  rw [eq_of_mem_encode hd (by decide)] at hslash
  exact hslash h

lemma flatMap_encode_inj {cs ds : List Char} : cs.flatMap encode = ds.flatMap encode ↔ cs = ds := by
  constructor
  · intro h
    have htext : (⟨String.ofList cs⟩ : Path).utf8.text = (⟨String.ofList ds⟩ : Path).utf8.text := by
      rw [← String.toList_inj, toList_utf8, toList_utf8, String.toList_ofList,
        String.toList_ofList, h]
    have hsame := congrArg (fun p => p.text.toList) (utf8_inj.1 (congrArg Path.mk htext))
    simpa using hsame
  · rintro rfl
    rfl

/-! ### Pieces and steps -/

lemma pieces_utf8 (p : Path) : p.utf8.pieces = p.pieces.map fun piece => piece.flatMap encode := by
  rw [pieces, toList_utf8, splitBy_flatMap (fun c hc => ?_) fun c hc => slash_not_mem_encode hc]
  · rfl
  · obtain rfl : c = '/' := by simpa [isSlash] using hc
    exact encode_slash

lemma head?_flatMap_encode (cs : List Char) :
    (cs.flatMap encode).head? = some '/' ↔ cs.head? = some '/' := by
  cases cs with
  | nil => simp
  | cons c cs =>
    rw [List.flatMap_cons, List.head?_append_of_ne_nil _ (encode_ne_nil c), List.head?_cons,
      Option.some.injEq]
    constructor
    · exact fun h => (eq_of_mem_encode (List.mem_of_mem_head? h) (by decide)).symm
    · rintro rfl
      rw [encode_slash, List.head?_cons]

lemma getLast?_flatMap_encode (cs : List Char) :
    (cs.flatMap encode).getLast? = some '/' ↔ cs.getLast? = some '/' := by
  rcases List.eq_nil_or_concat' cs with rfl | ⟨cs, c, rfl⟩
  · simp
  · rw [List.flatMap_append, List.flatMap_singleton,
      List.getLast?_append_of_ne_nil _ (encode_ne_nil c), List.getLast?_concat, Option.some.injEq]
    constructor
    · exact fun h => (eq_of_mem_encode (List.mem_of_getLast? h) (by decide)).symm
    · rintro rfl
      rw [encode_slash, List.getLast?_singleton]

lemma isAbsolute_utf8 (p : Path) : p.utf8.isAbsolute = p.isAbsolute := by
  rw [Bool.eq_iff_iff, isAbsolute, isAbsolute, beq_iff_eq, beq_iff_eq, toList_utf8,
    head?_flatMap_encode]

end Path

/-- A step by the bytes of its name. -/
def Step.encode : Step → Step
  | .name n => .name (⟨n⟩ : Path).utf8.text
  | s => s

lemma Step.encode_injective : Function.Injective Step.encode := by
  intro s s' h
  cases s with
  | name n =>
    cases s' with
    | name n' =>
      have hutf8 := Path.utf8_inj.1 (congrArg Path.mk (Step.name.inj h))
      exact congrArg (fun p : Path => Step.name p.text) hutf8
    | _ => exact Step.noConfusion h
  | _ => cases s' <;> first | rfl | exact Step.noConfusion h

namespace Path

lemma ofPiece_flatMap_encode (w : List Char) :
    Step.ofPiece (w.flatMap encode) = (Step.ofPiece w).map Step.encode := by
  by_cases hnil : w = []
  · rw [hnil]
    rfl
  by_cases hdot : w = ['.']
  · rw [hdot]
    rfl
  by_cases hdots : w = ['.', '.']
  · rw [hdots]
    rfl
  have hkept : ∀ {v : List Char}, v.flatMap encode = v → w ≠ v → w.flatMap encode ≠ v :=
    fun hv hne he => hne (flatMap_encode_inj.1 (he.trans hv.symm))
  rw [Step.ofPiece_eq_name hnil hdot hdots,
    Step.ofPiece_eq_name (hkept rfl hnil) (hkept rfl hdot) (hkept rfl hdots), Option.map_some,
    Step.encode, ← String.ofList_toList (s := utf8 _ |>.text), toList_utf8, String.toList_ofList]

lemma lead_utf8 (p : Path) : p.utf8.lead = p.lead := by
  have hdot : p.utf8.pieces.head? = some ['.'] ↔ p.pieces.head? = some ['.'] := by
    have hone : ['.'] = ['.'].flatMap encode := rfl
    rw [pieces_utf8, List.head?_map, hone]
    exact (Option.map_injective fun _ _ => flatMap_encode_inj.1).eq_iff' rfl
  rw [lead, lead, isAbsolute_utf8]
  simp only [hdot]

lemma steps_utf8 (p : Path) : p.utf8.steps = p.steps.map Step.encode := by
  have hmoves : p.utf8.moves = p.moves.map Step.encode := by
    rw [moves, moves, pieces_utf8, List.filterMap_map, List.map_filterMap]
    exact List.filterMap_congr fun piece _ => ofPiece_flatMap_encode piece
  have hlead : p.lead.map Step.encode = p.lead := by
    unfold lead
    split
    · rfl
    · split <;> rfl
  rw [steps_eq, steps_eq, lead_utf8, hmoves, List.map_append, hlead]

/-! ### Paths from steps -/

lemma text_utf8_append (s s' : String) :
    (⟨s ++ s'⟩ : Path).utf8.text = (⟨s⟩ : Path).utf8.text ++ (⟨s'⟩ : Path).utf8.text := by
  rw [← String.toList_inj, String.toList_append, toList_utf8, toList_utf8, toList_utf8,
    String.toList_append, List.flatMap_append]

lemma text_encode (s : Step) : s.encode.text = (⟨s.text⟩ : Path).utf8.text := by
  cases s <;> rfl

lemma text_utf8_joinWith (ss : List Step) :
    (⟨joinWith "/" (ss.map Step.text)⟩ : Path).utf8.text =
      joinWith "/" ((ss.map Step.encode).map Step.text) := by
  induction ss with
  | nil => rfl
  | cons s ss ih =>
    cases ss with
    | nil => exact (text_encode s).symm
    | cons s' ss =>
      simp only [List.map_cons, joinWith] at ih ⊢
      rw [text_utf8_append, text_utf8_append, ih, ← text_encode]
      rfl

lemma ofSteps_encode (ss : List Step) : ofSteps (ss.map Step.encode) = (ofSteps ss).utf8 := by
  have hjoined : ∀ ss : List Step, (⟨joinWith "/" ((ss.map Step.encode).map Step.text)⟩ : Path) =
      (⟨joinWith "/" (ss.map Step.text)⟩ : Path).utf8 := fun ss =>
    congrArg Path.mk (text_utf8_joinWith ss).symm
  cases ss with
  | nil => rfl
  | cons s ss =>
    cases s with
    | root =>
      have htext := text_utf8_append "/" (joinWith "/" (ss.map Step.text))
      rw [text_utf8_joinWith] at htext
      exact congrArg Path.mk htext.symm
    | _ => exact hjoined (_ :: ss)

lemma resolveStep_encode (seen : List Step) (s : Step) :
    resolveStep (seen.map Step.encode) s.encode = (resolveStep seen s).map Step.encode := by
  cases s with
  | up =>
    have hroot : seen.map Step.encode = [.root] ↔ seen = [.root] := by
      rw [List.map_eq_singleton_iff]
      constructor
      · rintro ⟨s, rfl, hs⟩
        cases s <;> first | rfl | cases hs
      · rintro rfl
        exact ⟨_, rfl, rfl⟩
    have hup : Step.encode .up = .up := rfl
    simp only [hup, resolveStep, beq_iff_eq, hroot]
    split
    · rfl
    · exact List.map_dropLast.symm
  | name n => simp [Step.encode, resolveStep]
  | root | here => rfl

/-! ### Whole paths -/

/-- **The bytes of a normal form** are the normal form of the bytes. -/
theorem normalize_utf8 (p : Path) : p.utf8.normalize = p.normalize.utf8 := by
  have hresolve : ∀ (ss seen : List Step), resolve (seen.map Step.encode) (ss.map Step.encode) =
      (resolve seen ss).map Step.encode := by
    intro ss
    induction ss with
    | nil => exact fun _ => rfl
    | cons s ss ih =>
      intro seen
      rw [List.map_cons, resolve, List.foldl_cons, resolveStep_encode]
      exact ih _
  rw [normalize, normalize, steps_utf8, ← ofSteps_encode]
  exact congrArg ofSteps (hresolve p.steps [])

lemma parent?_utf8 (p : Path) : p.utf8.parent? = p.parent?.map utf8 := by
  rw [parent?, parent?, steps_utf8, List.getLast?_map, ← List.map_dropLast, ofSteps_encode]
  rcases p.steps.getLast? with _ | (_ | _ | _ | _) <;> rfl

lemma join_utf8 (p q : Path) : (p.join q).utf8 = p.utf8.join q.utf8 := by
  have hempty : p.utf8.text.isEmpty = p.text.isEmpty := by
    have hnil : p.text.toList.flatMap encode = [] ↔ p.text.toList = [] :=
      @flatMap_encode_inj p.text.toList []
    rw [Bool.eq_iff_iff, String.isEmpty_iff, String.isEmpty_iff, ← String.toList_eq_nil_iff,
      ← String.toList_eq_nil_iff, toList_utf8, hnil]
  have hlast : p.utf8.text.toList.getLast? = some '/' ↔ p.text.toList.getLast? = some '/' := by
    rw [toList_utf8, getLast?_flatMap_encode]
  unfold join
  rw [isAbsolute_utf8, hempty]
  simp only [Bool.or_eq_true, beq_iff_eq, hlast]
  split
  · rfl
  · split
    · exact congrArg Path.mk (text_utf8_append ..)
    · exact congrArg Path.mk ((text_utf8_append ..).trans (congrArg (· ++ _) (text_utf8_append ..)))

end Path

namespace Spelling

lemma write_plain (p : Path) : plain.write p = p.text := rfl

lemma read_bytes (s : String) : bytes.read s = (⟨s⟩ : Path).utf8 := rfl

lemma write_utf8 (p : Path) : bytes.write p.utf8 = p.text :=
  (congrArg lossy (Path.bytes_utf8 p)).trans (lossy_bytesOf p.text)

end Spelling

end ViewLayers
