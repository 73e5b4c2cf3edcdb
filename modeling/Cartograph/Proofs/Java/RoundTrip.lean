import Cartograph.Proofs.Java.OneMethod

/-!
# Written types are read back

The text of a written type, put before the name of a method, is read back as the return type of that
method. So no two types have the same text.
-/

namespace Cartograph.Java

open Java.Parser Text WrittenType

/-! ### A class with one method -/

/-- The text of a class with one method of the type, without a body. -/
def classSource (t : WrittenType) : String := "class A \x7b " ++ t.render ++ " m(); \x7d"

/-- The text of a class with one method is read as this class. -/
lemma parse?_classSource {t : WrittenType} (ht : t.isWritten = true) (path : String) :
    SourceUnit.parse? path (classSource t) =
      some { path, types := [classWith (methodWith "m" t {})] } := by
  have hsource : (classSource t).toList =
      "class A \x7b ".toList ++ (t.render.toList ++ " m(); \x7d".toList) := by
    rw [classSource, String.append_assoc, String.toList_append, String.toList_append]
  have hbrace := lexes_nil.loneSign isSpace_blank (s := "\x7d") rfl (by decide)
  have hend := hbrace.loneSign isSpace_empty (s := ";") rfl (by decide)
  have hclose := hend.loneSign isSpace_empty (s := ")") rfl (by decide)
  have hopen := hclose.loneSign isSpace_empty (s := "(") rfl (by decide)
  have hname := hopen.word isSpace_blank (w := "m") rfl (endsWord_cons.mpr rfl)
  have hhead : Rule.EndsHead [.sign "" ";", .sign " " "\x7d"] := by simp [Rule.EndsHead, EndsType]
  exact parse?_eq_classWith ht hsource (endsWord_cons.mpr rfl) hname hhead
    (fun n => (reads_sign "" ";" _).orElse) path

/-- The text of a type that can be written, put before the name of a method in a class, is read back
without an error, and the only method of the class that is read has this type as its return type. So
no two types that can be written have the same text. -/
theorem render_read_back (path : String) (t : WrittenType) (ht : t.isWritten = true) :
    SourceUnit.parse? path ("class A \x7b " ++ t.render ++ " m(); \x7d") =
        some { path, types := [classWith (methodWith "m" t {})] } ∧
      (classWith (methodWith "m" t {})).methods.map (·.returns) = [t] ∧
      ∀ s : WrittenType, s.isWritten = true → s.render = t.render → s = t := by
  refine ⟨parse?_classSource ht path, rfl, fun s hs hrender => ?_⟩
  have hsource : classSource s = classSource t := by rw [classSource, classSource, hrender]
  have hunits := parse?_classSource hs path
  rw [hsource, parse?_classSource ht path] at hunits
  have hreturns := congrArg
    (Option.map fun u => u.types.flatMap fun d => d.methods.map (·.returns)) hunits
  simpa [classWith, methodWith] using hreturns.symm

/-- Arrays, wildcards and dotted names, one in the other. -/
theorem render_read_back_nested :
    let t : WrittenType := .array (.named "java.util.Map" [.type (.array (.primitive "int") 2),
      .bounded (.named "non.List" [.anything, .type (.plain "T$1")])]) 1
    t.isWritten = true ∧
      SourceUnit.parse? "A.java"
          "class A \x7b java.util.Map<int[][], ? extends non.List<?, T$1>>[] m(); \x7d" =
        some { path := "A.java", types := [classWith (methodWith "m" t {})] } ∧
      ∀ s : WrittenType, s.isWritten = true →
        s.render = "java.util.Map<int[][], ? extends non.List<?, T$1>>[]" → s = t := by
  intro t
  have ht : t.isWritten = true := by decide +kernel
  have hrender : t.render = "java.util.Map<int[][], ? extends non.List<?, T$1>>[]" := by
    decide +kernel
  obtain ⟨hread, -, hunique⟩ := render_read_back "A.java" t ht
  rw [hrender] at hread hunique
  exact ⟨ht, hread, hunique⟩

end Cartograph.Java
