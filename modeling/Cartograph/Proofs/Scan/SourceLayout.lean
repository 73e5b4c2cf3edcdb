import Cartograph.Proofs.FileTree.Canonical
import Cartograph.Proofs.Registry.Order

/-!
# Classes at their conventional places

The place that a class has by convention stands for the package of the class: reading the package
off the path undoes writing the path, below any root. Package patterns therefore select a file at
its conventional place by the package that it declares.
-/

namespace Cartograph

open Text

/-! ### Names of classes and packages -/

/-- A simple name, or a segment of a package. -/
structure IsNameSegment (s : String) : Prop where
  ne_empty : s ≠ ""
  not_dot : '.' ∉ s.toList
  not_sep : '/' ∉ s.toList

instance : DecidablePred IsNameSegment := fun s =>
  decidable_of_iff (s ≠ "" ∧ '.' ∉ s.toList ∧ '/' ∉ s.toList)
    ⟨fun h => ⟨h.1, h.2.1, h.2.2⟩, fun h => ⟨h.ne_empty, h.not_dot, h.not_sep⟩⟩

lemma IsNameSegment.isEntry {s : String} (h : IsNameSegment s) : Path.IsEntry s where
  not_filler := by
    have hdot : s ≠ "." := by
      rintro rfl
      exact h.not_dot (by decide)
    simp [Path.isFiller, h.ne_empty, hdot]
  not_up := by
    rintro rfl
    exact h.not_dot (by decide)
  not_sep := h.not_sep

lemma IsNameSegment.isEntry_append_java {s : String} (h : IsNameSegment s) :
    Path.IsEntry (s ++ ".java") where
  not_filler := by
    have hlong : ∀ short : String, short.length < ".java".length → s ++ ".java" ≠ short := by
      rintro short hshort rfl
      rw [String.length_append] at hshort
      omega
    simp [Path.isFiller, hlong "" (by decide), hlong "." (by decide)]
  not_up := by
    intro hup
    have hlength := congrArg String.length hup
    rw [String.length_append, show ".java".length = 5 from rfl, show "..".length = 2 from rfl]
      at hlength
    omega
  not_sep := by simpa using h.not_sep

/-! ### Writing the path -/

lemma replaceChar_append (old new : Char) (s t : String) :
    replaceChar old new (s ++ t) = replaceChar old new s ++ replaceChar old new t := by
  simp [replaceChar]

lemma replaceChar_intercalate {segments : List String} (h : ∀ s ∈ segments, IsNameSegment s) :
    replaceChar '.' '/' (".".intercalate segments) = "/".intercalate segments := by
  induction segments with
  | nil => rfl
  | cons s segments ih =>
    have hs : replaceChar '.' '/' s = s :=
      replaceChar_of_not_mem (h s List.mem_cons_self).not_dot '/'
    cases segments with
    | nil => exact hs
    | cons t rest =>
      have hrest := ih fun u hu => h u (List.mem_cons_of_mem s hu)
      rw [String.intercalate_cons_cons, String.intercalate_cons_cons, replaceChar_append,
        replaceChar_append, hs, hrest]
      rfl

/-- The directories of a class below a root of sources, and its file. -/
lemma conventionalPath_classKey {segments : List String} {simple : String}
    (hsegments : ∀ s ∈ segments, IsNameSegment s)
    (hpackage : ".".intercalate segments ≠ defaultPackage) (hsimple : IsNameSegment simple)
    (sourceSet : String) :
    conventionalPath (classKey (".".intercalate segments) simple) sourceSet =
      "/".intercalate (["src", sourceSet, "java"] ++ segments ++ [simple ++ ".java"]) := by
  rw [conventionalPath, qualifier_classKey _ hsimple.not_dot, simpleName_classKey _ hsimple.not_dot]
  have hstart : ∀ rest : List String, rest ≠ [] →
      "/".intercalate (["src", sourceSet, "java"] ++ rest) =
        "src/" ++ sourceSet ++ "/java/" ++ "/".intercalate rest := by
    intro rest hrest
    rw [String.intercalate_append_of_ne_nil (by simp) hrest]
    simp [String.append_assoc]
  rw [List.append_assoc, hstart _ (by simp)]
  by_cases hnil : segments = []
  · simp [hnil, String.append_assoc]
  · have hempty : ".".intercalate segments ≠ "" := by
      intro hempty
      have hpieces : pieces '.' (".".intercalate segments) = segments :=
        pieces_intercalate hnil fun s hs => (hsegments s hs).not_dot
      rw [hempty, pieces_of_not_mem (by decide)] at hpieces
      exact (hsegments "" (by simp [← hpieces])).ne_empty rfl
    simp only [hempty, hpackage, if_false, or_self, replaceChar_intercalate hsegments]
    rw [String.intercalate_append_of_ne_nil hnil (by simp)]
    simp [String.append_assoc]

/-! ### Reading the package -/

lemma afterFirst?_append (parts rest : List String) :
    afterFirst? parts (parts ++ rest) = some rest := by
  cases hall : parts ++ rest with
  | nil =>
    obtain ⟨rfl, rfl⟩ := List.append_eq_nil_iff.mp hall
    rfl
  | cons p ps =>
    rw [afterFirst?, ← hall, if_pos (by simp), List.drop_left]

lemma afterFirst?_eq_none {parts all : List String} (h : ¬parts <:+: all) :
    afterFirst? parts all = none := by
  induction all with
  | nil => simpa [afterFirst?] using h
  | cons p ps ih =>
    rw [List.infix_cons_iff, not_or] at h
    simp [afterFirst?, h.1, ih h.2]

/-- Below its root a file's directories alone tell its package. -/
lemma packageOfPath?_join (root : String) {directories : List String} {name : String}
    (hdirectories : ∀ p ∈ directories, Path.IsEntry p) (hname : Path.IsEntry name) :
    packageOfPath? root (Path.join root ("/".intercalate (directories ++ [name]))) =
      (sourceRoots.findSome? (afterFirst? · directories)).map ".".intercalate := by
  have hne : directories ++ [name] ≠ [] := by simp
  have hentries : ∀ p ∈ directories ++ [name], Path.IsEntry p := by
    simpa [or_imp, forall_and] using ⟨hdirectories, hname⟩
  have hcomponents := Path.components_intercalate_entries hne hentries
  have hroot : directories ++ [name] ≠ ["/"] := by
    intro hroot
    exact (hentries "/" (by simp [hroot])).not_sep (by decide)
  have hfilter : (directories.filter fun p => p != "/" && p != "." && p != "..") = directories := by
    rw [List.filter_eq_self]
    intro p hp
    have hcounts := (hdirectories p hp).not_filler
    have hsep : p ≠ "/" := by
      rintro rfl
      exact (hdirectories "/" hp).not_sep (by decide)
    simp_all [Path.isFiller, (hdirectories p hp).not_up]
  simp only [packageOfPath?, Path.relativeTo?_join root hne hentries, Option.getD_some, hcomponents,
    hne, hroot, or_self, if_false, List.dropLast_concat, hfilter]

/-- The pattern looks at a file through the package of its place. -/
lemma PackagePattern.matchesFile_eq {root file package : String}
    (h : packageOfPath? root file = some package) (pattern : PackagePattern) :
    pattern.matchesFile root file = pattern.matchesPackage package := by
  cases hparts : pattern.parts? <;>
    simp [matchesFile, isAll, matchesPackage, hparts, h]

/-- The file of a class in a source set below a root, by convention. -/
def conventionalFile (root package simple sourceSet : String) : String :=
  Path.join root (conventionalPath (classKey package simple) sourceSet)

lemma packageOfPath?_conventionalFile (root : String) {segments : List String}
    {simple sourceSet : String} (hsegments : ∀ s ∈ segments, IsNameSegment s)
    (hpackage : ".".intercalate segments ≠ defaultPackage) (hsimple : IsNameSegment simple)
    (hset : IsNameSegment sourceSet) :
    packageOfPath? root (conventionalFile root (".".intercalate segments) simple sourceSet) =
      (sourceRoots.findSome? (afterFirst? · (["src", sourceSet, "java"] ++ segments))).map
        ".".intercalate := by
  have hdirectories : ∀ p ∈ ["src", sourceSet, "java"] ++ segments, Path.IsEntry p := by
    intro p hp
    simp only [List.mem_append, List.mem_cons, List.not_mem_nil, or_false] at hp
    obtain (rfl | rfl | rfl) | hp := hp
    · decide
    · exact hset.isEntry
    · decide
    · exact (hsegments p hp).isEntry
  rw [conventionalFile, conventionalPath_classKey hsegments hpackage hsimple,
    packageOfPath?_join root hdirectories hsimple.isEntry_append_java]

/-- The place that a class has by convention among the main sources stands for its package, and so
does its place among the tests, unless the package has the names of the main sources in it. So a
pattern selects the file of a class by the package that the class is declared in. -/
theorem conventionalFile_stands_for_package (root simple : String) (segments : List String)
    (pattern : PackagePattern) (hsegments : ∀ s ∈ segments, IsNameSegment s)
    (hpackage : ".".intercalate segments ≠ defaultPackage) (hsimple : IsNameSegment simple) :
    (packageOfPath? root (conventionalFile root (".".intercalate segments) simple "main") =
        some (".".intercalate segments) ∧
      pattern.matchesFile root (conventionalFile root (".".intercalate segments) simple "main") =
        pattern.matchesPackage (".".intercalate segments)) ∧
    (¬["src", "main", "java"] <:+: segments →
      packageOfPath? root (conventionalFile root (".".intercalate segments) simple "test") =
        some (".".intercalate segments) ∧
      pattern.matchesFile root (conventionalFile root (".".intercalate segments) simple "test") =
        pattern.matchesPackage (".".intercalate segments)) := by
  have hmain :
      packageOfPath? root (conventionalFile root (".".intercalate segments) simple "main") =
        some (".".intercalate segments) := by
    rw [packageOfPath?_conventionalFile root hsegments hpackage hsimple (by decide)]
    simp only [sourceRoots, List.findSome?, afterFirst?_append, Option.map_some]
  refine ⟨⟨hmain, PackagePattern.matchesFile_eq hmain pattern⟩, fun hnested => ?_⟩
  have htest :
      packageOfPath? root (conventionalFile root (".".intercalate segments) simple "test") =
        some (".".intercalate segments) := by
    have hnone : afterFirst? ["src", "main", "java"] (["src", "test", "java"] ++ segments) = none :=
      afterFirst?_eq_none (by simpa [List.infix_cons_iff] using hnested)
    rw [packageOfPath?_conventionalFile root hsegments hpackage hsimple (by decide)]
    simp only [sourceRoots, List.findSome?, hnone, afterFirst?_append, Option.map_some]
  exact ⟨htest, PackagePattern.matchesFile_eq htest pattern⟩

/-- A package that repeats the name of its source set, and the default package, below roots that are
written with fillers. -/
theorem conventionalFile_stands_for_package_shop :
    (packageOfPath? "./work//shop/"
        (conventionalFile "./work//shop/" "src.test.java.shop" "Till" "test") =
        some "src.test.java.shop" ∧
      (PackagePattern.ofText "src.**").matchesFile "./work//shop/"
        (conventionalFile "./work//shop/" "src.test.java.shop" "Till" "test") = true) ∧
    packageOfPath? "/" (conventionalFile "/" "" "Till" "main") = some "" := by
  have hnested : ¬["src", "main", "java"] <:+: ["src", "test", "java", "shop"] := by
    decide
  have htest := (conventionalFile_stands_for_package "./work//shop/" "Till"
    ["src", "test", "java", "shop"] (PackagePattern.ofText "src.**")
    (List.forall_iff_forall_mem.mp (by decide)) (by decide) (by decide)).2 hnested
  have hmain := (conventionalFile_stands_for_package "/" "Till" [] .all
    (by simp) (by decide) (by decide)).1
  exact ⟨⟨htest.1, htest.2.trans (by decide +kernel)⟩, hmain.1⟩

end Cartograph
