import ViewLayers.Json.Writing
import ViewLayers.Proofs.Script.Literals

/-!
What writing tells apart. No two data are written alike, and the text of data ends where it ends
whatever stands behind it.
-/

namespace ViewLayers.Json.Data

open Text

variable {d d' name value : Data} {fields fields' : List (Data × Data)} {t t' : String}
  {ts ts' : List String} {cs cs' : List Char}

/-! ### How data are written -/

lemma write_map_eq_ok_iff : (map fields).write = .ok t ↔
    ∃ ts, writeFields fields = .ok ts ∧ t = "\x7b" ++ joinWith "," ts ++ "\x7d" := by
  rw [write]
  cases writeFields fields with
  | ok ts => simp [bind, Except.bind, pure, Except.pure, eq_comm]
  | error e => simp [bind, Except.bind]

lemma writeFields_cons_eq_ok_iff : writeFields ((name, value) :: fields) = .ok ts ↔
    ∃ s t ts', name = .text s ∧ value.write = .ok t ∧ writeFields fields = .ok ts' ∧
      ts = (Quoted.literal s ++ ":" ++ t) :: ts' := by
  rw [writeFields]
  cases name with
  | text s =>
    cases value.write with
    | ok t =>
      cases writeFields fields with
      | ok ts' => simp [writeName, bind, Except.bind, pure, Except.pure, eq_comm]
      | error e => simp [writeName, bind, Except.bind]
    | error e => simp [writeName, bind, Except.bind]
  | _ => simp [writeName, bind, Except.bind]

/-- The character that the text of data begins with. -/
def mark : Data → Char
  | .null => 'n'
  | .text _ => '"'
  | .map _ => '\x7b'

lemma head?_write (h : d.write = .ok t) (cs : List Char) :
    (t.toList ++ cs).head? = some d.mark := by
  cases d with
  | null =>
    cases h
    rfl
  | text s =>
    cases h
    rw [Script.toList_literal_append]
    rfl
  | map fields =>
    obtain ⟨ts, -, rfl⟩ := write_map_eq_ok_iff.1 h
    simp [mark]

/-- What stands behind a field: nothing, or a comma and the fields to come. -/
def behind : List String → List Char
  | [] => []
  | t :: ts => ',' :: (joinWith "," (t :: ts)).toList

lemma toList_joinWith_cons (t : String) (ts : List String) :
    (joinWith "," (t :: ts)).toList = t.toList ++ behind ts := by
  cases ts <;> simp [joinWith, behind]

lemma joinWith_append_of_behind
    (h : behind ts ++ '\x7d' :: cs = behind ts' ++ '\x7d' :: cs') :
    (joinWith "," ts).toList ++ '\x7d' :: cs = (joinWith "," ts').toList ++ '\x7d' :: cs' := by
  match ts, ts' with
  | [], [] => exact h
  | [], t' :: ts' => simp [behind] at h
  | t :: ts, [] => simp [behind] at h
  | t :: ts, t' :: ts' => exact (List.cons.inj h).2

/-! ### Telling data apart -/

mutual

theorem write_append_inj (d d' : Data) {t t' : String} {cs cs' : List Char}
    (h : d.write = .ok t) (h' : d'.write = .ok t')
    (ht : t.toList ++ cs = t'.toList ++ cs') : d = d' ∧ cs = cs' := by
  have hmark : d.mark = d'.mark := by
    have hhead := head?_write h cs
    rw [ht, head?_write h' cs'] at hhead
    exact (Option.some.inj hhead).symm
  match d, d' with
  | .null, .null =>
    cases h
    cases h'
    exact ⟨rfl, List.append_cancel_left ht⟩
  | .text s, .text s' =>
    cases h
    cases h'
    obtain ⟨rfl, hcs⟩ := Script.literal_append_inj ht
    exact ⟨rfl, hcs⟩
  | .map fields, .map fields' =>
    obtain ⟨ts, hts, rfl⟩ := write_map_eq_ok_iff.1 h
    obtain ⟨ts', hts', rfl⟩ := write_map_eq_ok_iff.1 h'
    have hjoined : (joinWith "," ts).toList ++ '\x7d' :: cs =
        (joinWith "," ts').toList ++ '\x7d' :: cs' := by simpa using ht
    obtain ⟨rfl, hcs⟩ := writeFields_append_inj fields fields' hts hts' hjoined
    exact ⟨rfl, hcs⟩
  | .null, .text _ | .null, .map _ | .text _, .null | .text _, .map _ | .map _, .null
  | .map _, .text _ => simp [mark] at hmark

theorem writeFields_append_inj (fields fields' : List (Data × Data)) {ts ts' : List String}
    {cs cs' : List Char} (h : writeFields fields = .ok ts) (h' : writeFields fields' = .ok ts')
    (ht : (joinWith "," ts).toList ++ '\x7d' :: cs = (joinWith "," ts').toList ++ '\x7d' :: cs') :
    fields = fields' ∧ cs = cs' := by
  match fields, fields' with
  | [], [] =>
    cases h
    cases h'
    exact ⟨rfl, (List.cons.inj ht).2⟩
  | [], (name, value) :: fields' =>
    cases h
    obtain ⟨s, t, ts', -, -, -, rfl⟩ := writeFields_cons_eq_ok_iff.1 h'
    rw [toList_joinWith_cons] at ht
    simp [joinWith, Quoted.literal] at ht
  | (name, value) :: fields, [] =>
    cases h'
    obtain ⟨s, t, ts', -, -, -, rfl⟩ := writeFields_cons_eq_ok_iff.1 h
    rw [toList_joinWith_cons] at ht
    simp [joinWith, Quoted.literal] at ht
  | (name, value) :: fields, (name', value') :: fields' =>
    obtain ⟨s, t, ts, rfl, hvalue, hfields, rfl⟩ := writeFields_cons_eq_ok_iff.1 h
    obtain ⟨s', t', ts', rfl, hvalue', hfields', rfl⟩ := writeFields_cons_eq_ok_iff.1 h'
    rw [toList_joinWith_cons, toList_joinWith_cons] at ht
    have hname : (Quoted.literal s).toList ++ ':' :: (t.toList ++ (behind ts ++ '\x7d' :: cs)) =
        (Quoted.literal s').toList ++ ':' :: (t'.toList ++ (behind ts' ++ '\x7d' :: cs')) := by
      simpa using ht
    obtain ⟨rfl, hcolon⟩ := Script.literal_append_inj hname
    obtain ⟨rfl, hbehind⟩ := write_append_inj value value' hvalue hvalue' (List.cons.inj hcolon).2
    obtain ⟨rfl, hcs⟩ := writeFields_append_inj fields fields' hfields hfields'
      (joinWith_append_of_behind hbehind)
    exact ⟨rfl, hcs⟩

end

/-- **No two data are written alike.** -/
theorem write_inj (h : d.write = .ok t) (h' : d'.write = .ok t) : d = d' :=
  (write_append_inj d d' h h' (rfl : t.toList ++ [] = t.toList ++ [])).1

end ViewLayers.Json.Data
