import Cartograph.Mapping
import Cartograph.Proofs.Text.Above
import Cartograph.Proofs.Text.Bytes
import Cartograph.Rules.Names

/-!
# Names of annotations

A written name matches a wanted one if it is that name, or ends in a dot and that name. This can be
asked of the characters or of the bytes of the names: the byte of a dot is always a character of its
own, so it is only between characters that a name is cut there. For a wanted name without dots the
answer is whether it is the last segment of the written one.

The rules ask for annotations in both ways, by a match and by the last segment. All names in their
tables are without dots, so both ways accept the same annotations.
-/

namespace Cartograph

namespace Text

variable {written wanted : String}

/-! ### Matching on characters -/

lemma namesMatch_iff :
    namesMatch written wanted = true ↔
      written = wanted ∨ ∃ before, written = before ++ "." ++ wanted := by
  rw [namesMatch, Bool.or_eq_true, beq_iff_eq, List.isSuffixOf_iff_suffix]
  refine or_congr_right ⟨?_, ?_⟩
  · rintro ⟨before, hbefore⟩
    refine ⟨String.ofList before, ?_⟩
    rw [← String.toList_inj, ← hbefore]
    simp
  · rintro ⟨before, rfl⟩
    exact ⟨before.toList, by simp⟩

/-- A name without dots is matched by the names whose last segment it is. -/
lemma namesMatch_iff_simpleName_eq (h : '.' ∉ wanted.toList) :
    namesMatch written wanted = true ↔ simpleName written = wanted := by
  rw [namesMatch_iff]
  constructor
  · rintro (rfl | ⟨before, rfl⟩)
    · exact simpleName_of_not_mem h
    · exact simpleName_qualified before h
  · rintro rfl
    by_cases hdot : '.' ∈ written.toList
    · exact .inr ⟨qualifier written, (qualifier_dot_simpleName hdot).symm⟩
    · exact .inl (simpleName_of_not_mem hdot).symm

/-! ### Matching on bytes -/

/-- The bytes are longer than the tail, end in it, and have a dot at the place before it. -/
def endsInDotAnd (tail bytes : List UInt8) : Bool :=
  decide (tail.length < bytes.length) && tail.isSuffixOf bytes &&
    bytes[bytes.length - tail.length - 1]? == some '.'.toUInt8

lemma getElem?_before_tail (front tail : List UInt8) (b : UInt8) :
    (front ++ b :: tail)[(front ++ b :: tail).length - tail.length - 1]? = some b := by
  have hplace : (front ++ b :: tail).length - tail.length - 1 = front.length := by
    rw [List.length_append, List.length_cons]
    omega
  rw [hplace, List.getElem?_append_right (Nat.le_refl _), Nat.sub_self, List.getElem?_cons_zero]

lemma endsInDotAnd_iff {tail bytes : List UInt8} :
    endsInDotAnd tail bytes = true ↔ ∃ front, bytes = front ++ '.'.toUInt8 :: tail := by
  rw [endsInDotAnd, Bool.and_eq_true, Bool.and_eq_true, decide_eq_true_eq,
    List.isSuffixOf_iff_suffix, beq_iff_eq]
  constructor
  · rintro ⟨⟨hlt, front, rfl⟩, hdot⟩
    -- What stands before the tail is not empty, and its last byte is the one that was looked at.
    obtain rfl | ⟨rest, b, rfl⟩ := front.eq_nil_or_concat
    · simp at hlt
    · rw [List.concat_eq_append, List.append_assoc, List.singleton_append] at hdot ⊢
      obtain rfl := Option.some.inj ((getElem?_before_tail rest tail b).symm.trans hdot)
      exact ⟨rest, rfl⟩
  · rintro ⟨front, rfl⟩
    refine ⟨⟨?_, ?_⟩, getElem?_before_tail front tail _⟩
    · rw [List.length_append, List.length_cons]
      omega
    · exact (List.suffix_cons _ tail).trans (List.suffix_append front _)

/-- The match of names on their bytes. -/
def namesMatchBytes (written wanted : String) : Bool :=
  written == wanted || endsInDotAnd (Utf8.encode wanted) (Utf8.encode written)

/-- Characters and bytes give the same answer. -/
lemma namesMatch_eq_namesMatchBytes (written wanted : String) :
    namesMatch written wanted = namesMatchBytes written wanted := by
  have hdot : Utf8.encode "." = ['.'.toUInt8] := by
    rw [Utf8.encode_eq]
    rfl
  rw [Bool.eq_iff_iff, namesMatch_iff, namesMatchBytes, Bool.or_eq_true, beq_iff_eq,
    endsInDotAnd_iff]
  refine or_congr_right ⟨?_, ?_⟩
  · rintro ⟨before, rfl⟩
    refine ⟨Utf8.encode before, ?_⟩
    rw [Utf8.encode_append, Utf8.encode_append, List.append_assoc, hdot, List.singleton_append]
  · rintro ⟨front, hfront⟩
    obtain ⟨before, rest, rfl, -, hrest⟩ := Utf8.exists_append_of_firstByte (by decide) hfront
    obtain rfl : rest = "." ++ wanted := by
      rw [← Utf8.encode_inj, hrest, Utf8.encode_append, hdot, List.singleton_append]
    exact ⟨before, String.append_assoc.symm⟩

end Text

/-! ### Annotations -/

open Text Java

variable {a : AnnotationUse} {names : List String}

lemma Java.AnnotationUse.isNamed_iff {name : String} (h : '.' ∉ name.toList) :
    a.isNamed name = true ↔ a.simpleName = name :=
  namesMatch_iff_simpleName_eq h

lemma Rules.isOneOf_iff (h : ∀ name ∈ names, '.' ∉ name.toList) :
    Rules.isOneOf a.name names = true ↔ a.simpleName ∈ names := by
  rw [Rules.isOneOf, List.any_eq_true]
  constructor
  · rintro ⟨name, hname, hmatch⟩
    have hsimple : a.simpleName = name := (AnnotationUse.isNamed_iff (h name hname)).mp hmatch
    exact hsimple ▸ hname
  · intro hmem
    exact ⟨a.simpleName, hmem, (AnnotationUse.isNamed_iff (h _ hmem)).mpr rfl⟩

/-- The tables of annotations that the rules ask for. -/
def Rules.annotationTables : List (List String) :=
  [constraintNames, validMarkers, lombokOnTypes, lombokOnFields, lombokOnConstructors,
    lombokLoggers.map (·.1), adviceNames, guardNames, bindingNames, sliceNames, injectionMarkers,
    eventListeners, mappingNames.map (·.1)]

lemma Rules.not_dot_mem_of_mem_annotationTables (h : names ∈ annotationTables) :
    ∀ name ∈ names, '.' ∉ name.toList := by
  have hall : (annotationTables.all fun names => names.all fun name =>
      !name.toList.contains '.') = true := by
    decide +kernel
  intro name hname hdot
  have := List.all_eq_true.mp (List.all_eq_true.mp hall names h) name hname
  simp [hdot] at this

/-- A written name matches a wanted one exactly if it is that name or some text, a dot and that
name; asking the bytes of the names gives the same answer. If the wanted name has no dots, the match
says that it is the last segment of the written name. So the two tests of an annotation agree, for a
single name and for a table of names, and for all tables that the rules use. -/
theorem namesMatch_iff_last_segment :
    (∀ written wanted : String,
      (namesMatch written wanted = true ↔
        written = wanted ∨ ∃ before, written = before ++ "." ++ wanted) ∧
      namesMatch written wanted = namesMatchBytes written wanted ∧
      ('.' ∉ wanted.toList → (namesMatch written wanted = true ↔ simpleName written = wanted))) ∧
    ∀ a : AnnotationUse,
      (∀ name : String, '.' ∉ name.toList → (a.isNamed name = true ↔ a.simpleName = name)) ∧
      (∀ names : List String, (∀ name ∈ names, '.' ∉ name.toList) →
        (Rules.isOneOf a.name names = true ↔ a.simpleName ∈ names)) ∧
      ∀ names ∈ Rules.annotationTables,
        (Rules.isOneOf a.name names = true ↔ a.simpleName ∈ names) := by
  refine ⟨fun written wanted => ⟨namesMatch_iff, ?_, ?_⟩, fun a => ⟨?_, ?_, ?_⟩⟩
  · exact namesMatch_eq_namesMatchBytes written wanted
  · exact namesMatch_iff_simpleName_eq
  · intro name hname
    exact AnnotationUse.isNamed_iff hname
  · intro names hnames
    exact Rules.isOneOf_iff hnames
  · intro names hnames
    exact Rules.isOneOf_iff (Rules.not_dot_mem_of_mem_annotationTables hnames)

/-- A qualified name in two scripts, a name that only shares its end with the wanted one, and an
annotation of a table. -/
theorem namesMatch_iff_last_segment_scripts :
    ('.' ∉ "Служба".toList ∧ namesMatch "包.é.Служба" "Служба" = true ∧
      ¬namesMatch "МояСлужба" "Служба" = true) ∧
    Rules.sliceNames ∈ Rules.annotationTables ∧
      Rules.isOneOf (AnnotationUse.marker "org.test.JsonTest").name Rules.sliceNames = true := by
  have hdot : '.' ∉ "Служба".toList := by decide
  have hslices : Rules.sliceNames ∈ Rules.annotationTables := by
    simp [Rules.annotationTables]
  obtain ⟨htext, htable⟩ := namesMatch_iff_last_segment
  refine ⟨⟨hdot, ?_, ?_⟩, hslices, ?_⟩
  · rw [(htext _ _).2.2 hdot]
    decide
  · rw [(htext _ _).2.2 hdot]
    decide
  · rw [(htable _).2.2 _ hslices]
    decide

end Cartograph
