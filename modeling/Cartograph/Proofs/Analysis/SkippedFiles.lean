import Cartograph.Proofs.Analysis.Endpoints
import Cartograph.Proofs.FileTree.Removal
import Cartograph.Proofs.Project.Places
import Cartograph.Proofs.Workspace.History

/-!
# Files that are left out

A source file that cannot be read, or whose syntax errors are not tolerated, leaves no trace but its
entry in the report: the run finds out what it would have found out if the file were not there. So
two whole runs are compared, one over a disk and one over the disk from which the bad files are
removed. Only the identifiers that the runs draw may differ. What the runs make of files with syntax
errors that are tolerated can be anything.
-/

namespace Cartograph

open Text Java

/-! ### Reading -/

/-- The file cannot be read as text, or it has syntax errors and they are not tolerated. -/
def Disk.isBad (d : Disk) (tolerates : Bool) (path : String) : Bool :=
  match d.readText path with
  | .error _ => true
  | .ok source => !tolerates && (SourceUnit.parse? path source).isNone

section

variable {d : Disk} {tolerates : Bool} {path : String}

lemma path_of_parse? {source : String} {u : SourceUnit}
    (h : SourceUnit.parse? path source = some u) : u.path = path := by
  obtain ⟨tokens, -, h⟩ := Option.bind_eq_some_iff.mp h
  obtain ⟨reading, -, h⟩ := Option.bind_eq_some_iff.mp h
  cases h
  rfl

lemma hasSyntaxErrors_of_parse? {source : String} {u : SourceUnit}
    (h : SourceUnit.parse? path source = some u) : u.hasSyntaxErrors = false := by
  obtain ⟨tokens, -, h⟩ := Option.bind_eq_some_iff.mp h
  obtain ⟨reading, -, h⟩ := Option.bind_eq_some_iff.mp h
  cases h
  rfl

lemma path_read (recovery : Recovery) (path source : String) :
    (SourceUnit.read recovery path source).path = path := by
  rw [SourceUnit.read]
  cases hparse : SourceUnit.parse? path source with
  | some u => exact path_of_parse? hparse
  | none => rfl

/-- The recovery never hides that there are syntax errors. -/
lemma hasSyntaxErrors_read (recovery : Recovery) (path source : String) :
    (SourceUnit.read recovery path source).hasSyntaxErrors =
      (SourceUnit.parse? path source).isNone := by
  rw [SourceUnit.read]
  cases hparse : SourceUnit.parse? path source with
  | some u => exact hasSyntaxErrors_of_parse? hparse
  | none => rfl

/-- A file is read, with or without syntax errors, or it is bad. -/
lemma readSource_cases (d : Disk) (recovery : Recovery) (tolerates : Bool) (path : String) :
    (d.isBad tolerates path = false ∧ ∃ source, d.readText path = .ok source ∧
      readSource recovery tolerates path (d.read path) =
        .ok (SourceUnit.read recovery path source)) ∨
    (d.isBad tolerates path = true ∧
      ∃ reason, readSource recovery tolerates path (d.read path) = .error ⟨path, reason⟩) := by
  rw [Disk.isBad, Disk.readText]
  cases d.read path with
  | error fault => exact .inr ⟨rfl, _, rfl⟩
  | ok bytes =>
    simp only [readSource]
    cases Utf8.decode bytes.toList with
    | error fault => exact .inr ⟨rfl, _, rfl⟩
    | ok source =>
      simp only [hasSyntaxErrors_read]
      cases hbad : (SourceUnit.parse? path source).isNone && !tolerates with
      | false => exact .inl ⟨by rw [Bool.and_comm, hbad], source, rfl, rfl⟩
      | true => exact .inr ⟨by rw [Bool.and_comm, hbad], _, rfl⟩

lemma exists_of_isBad (recovery : Recovery) (h : d.isBad tolerates path = true) :
    ∃ reason, readSource recovery tolerates path (d.read path) = .error ⟨path, reason⟩ := by
  rcases readSource_cases d recovery tolerates path with ⟨hgood, -⟩ | ⟨-, hread⟩
  · rw [h] at hgood
    cases hgood
  · exact hread

lemma exists_of_not_isBad (recovery : Recovery) (h : d.isBad tolerates path = false) :
    ∃ u, readSource recovery tolerates path (d.read path) = .ok u := by
  rcases readSource_cases d recovery tolerates path with ⟨-, source, -, hread⟩ | ⟨hbad, -⟩
  · exact ⟨_, hread⟩
  · rw [h] at hbad
    cases hbad

/-- The files that are left out are the bad ones, in order. -/
lemma map_path_readSources (recovery : Recovery) (files : List String) :
    (readSources d recovery tolerates files).2.map (·.path) =
      files.filter (d.isBad tolerates) := by
  induction files with
  | nil => rfl
  | cons path files ih =>
    cases hbad : d.isBad tolerates path with
    | true =>
      obtain ⟨reason, hread⟩ := exists_of_isBad recovery hbad
      simp [readSources, hread, hbad, ih]
    | false =>
      obtain ⟨u, hread⟩ := exists_of_not_isBad recovery hbad
      simp [readSources, hread, hbad, ih]

/-- What is read is what is read of the other files alone, of which none is left out. -/
lemma readSources_filter (recovery : Recovery) {d' : Disk} {files : List String}
    (h : ∀ path ∈ files, d.isBad tolerates path = false → d'.read path = d.read path) :
    readSources d' recovery tolerates (files.filter fun path => !d.isBad tolerates path) =
      ((readSources d recovery tolerates files).1, []) := by
  induction files with
  | nil => rfl
  | cons path files ih =>
    have hrest := ih fun path hpath => h path (List.mem_cons_of_mem _ hpath)
    cases hbad : d.isBad tolerates path with
    | true =>
      obtain ⟨reason, hread⟩ := exists_of_isBad recovery hbad
      simp [readSources, hread, hbad, hrest]
    | false =>
      obtain ⟨u, hread⟩ := exists_of_not_isBad recovery hbad
      have hsame := h path List.mem_cons_self hbad
      simp [readSources, hread, hbad, hrest, hsame]

/-- Of bad files alone nothing is read. -/
lemma units_readSources_of_bad (recovery : Recovery) {files : List String}
    (h : files.filter (fun path => !d.isBad tolerates path) = []) :
    (readSources d recovery tolerates files).1 = [] := by
  have hread : readSources d recovery tolerates
        (files.filter fun path => !d.isBad tolerates path) =
      ((readSources d recovery tolerates files).1, []) :=
    readSources_filter recovery fun _ _ _ => rfl
  rw [h] at hread
  exact (congrArg Prod.fst hread).symm

end

/-! ### Removing the bad files -/

/-- A path with an extension has a last part with one. -/
lemma Path.dot_mem_of_extension? {parts : List String} {name extension : String}
    (hparts : ∀ p ∈ parts ++ [name], IsEntry p)
    (h : extension? (ofParts (parts ++ [name])) = some extension) :
    '.' ∈ name.toList.drop 1 := by
  have hlast : (components (ofParts (parts ++ [name]))).getLast? = some name := by
    rw [components_ofParts hparts, ← List.cons_append, List.getLast?_concat]
  simp only [extension?, fileName?, hlast, Option.bind_eq_bind, Option.bind_eq_some_iff] at h
  obtain ⟨found, hfound, hdot⟩ := h
  split_ifs at hfound
  cases hfound
  split_ifs at hdot with hmem
  exact hmem

namespace Disk

variable {d : Disk} {s : ScanSettings} {pattern : PackagePattern} {root : String}
  {parts : List String}

/-- What is known of a source file by its parts from the top. -/
lemma HasRoot.of_mem_sourcePlaces (h : d.HasRoot root parts) (hwf : d.tree.WellFormed)
    {place : List String} (hplace : place ∈ d.sourcePlaces s root pattern parts) :
    place ≠ [] ∧ d.parts (Path.ofParts place) = .ok place ∧
      ∃ content, d.tree.at? place = some (.file content) := by
  obtain ⟨below, hbelow, rfl⟩ := List.mem_map.mp hplace
  have hsource := h.isSource hwf hbelow
  exact ⟨List.append_ne_nil_of_right_ne_nil _ hsource.ne_nil, hsource.parts_eq hwf,
    hsource.isFile⟩

/-- Source files have an extension. -/
lemma HasRoot.withExtension (h : d.HasRoot root parts) (hwf : d.tree.WellFormed)
    {removed : List (List String)} (hremoved : removed ⊆ d.sourcePlaces s root pattern parts) :
    FileTree.WithExtension removed.contains := by
  intro above name hgone
  rw [List.contains_iff_mem] at hgone
  obtain ⟨below, hbelow, heq⟩ := List.mem_map.mp (hremoved hgone)
  have hsource := h.isSource hwf hbelow
  have hentries : ∀ p ∈ above ++ [name], Path.IsEntry p := by
    rw [← heq]
    exact List.forall_mem_append.mpr ⟨h.entries, hsource.entries⟩
  have hselected := hsource.selected
  simp only [ScanSettings.selects, heq, Bool.and_eq_true, beq_iff_eq] at hselected
  exact Path.dot_mem_of_extension? hentries hselected.2

/-- The disk without some of its source files has the others, and reads them as before. -/
lemma HasRoot.remove_sources (h : d.HasRoot root parts) (hwf : d.tree.WellFormed)
    {files : List String} (hfiles : d.sources s root pattern = .ok files) (bad : String → Bool) :
    ∃ d', (files.filter bad).foldlM remove? d = some d' ∧
      (∀ path, d.projectRoot path = .ok root → d'.projectRoot path = .ok root) ∧
      d'.sources s root pattern = .ok (files.filter fun path => !bad path) ∧
      ∀ path ∈ files, bad path = false → d'.read path = d.read path := by
  obtain rfl := Except.ok.inj ((h.sources_eq hwf).symm.trans hfiles)
  let removed := (d.sourcePlaces s root pattern parts).filter (bad ∘ Path.ofParts)
  have hremoved : removed ⊆ d.sourcePlaces s root pattern parts := List.filter_subset_self _
  have hleft : (d.without removed).sourcePlaces s root pattern parts =
      (d.sourcePlaces s root pattern parts).filter fun place => !bad (Path.ofParts place) := by
    rw [h.sourcePlaces_without hwf (h.withExtension hwf hremoved)]
    apply List.filter_congr
    intro place hplace
    simp [removed, hplace]
  refine ⟨d.without removed, ?_, ?_, ?_, ?_⟩
  · rw [List.filter_map]
    apply foldlM_remove? hwf ((h.nodup_sourcePlaces hwf).filter _)
    exact fun place hplace => h.of_mem_sourcePlaces hwf (hremoved hplace)
  · exact fun path hpath => projectRoot_without hwf hpath removed
  · rw [(h.without hwf removed).sources_eq (FileTree.WellFormed.prune d.tree [] hwf), hleft,
      List.filter_map]
    rfl
  · intro path hpath hgood
    obtain ⟨place, hplace, rfl⟩ := List.mem_map.mp hpath
    obtain ⟨-, hparts, content, hfile⟩ := h.of_mem_sourcePlaces hwf hplace
    apply read_without hwf hparts hfile
    intro hgone
    have hbad := (List.mem_filter.mp hgone).2
    rw [Function.comp_apply, hgood] at hbad
    cases hbad

end Disk

/-! ### Runs that draw other identifiers -/

namespace ProjectData

/-- The projects agree, but for the identifiers that were drawn for them. -/
structure SameFindings (p q : ProjectData) : Prop where
  root_eq : q.root = p.root
  registry_eq : q.registry = p.registry
  members_eq : q.members = p.members
  edges_eq : q.edges = p.edges.map fun e => { e with batch := q.batch }
  endpoints_eq : q.endpoints.map Endpoint.mapping = p.endpoints.map Endpoint.mapping

lemma sameFindings_ofUnits (id id' : Uuid) (root : String) (batch batch' : Uuid)
    (lexicon : Option Lexicon) (ids ids' : Supply) (units : List SourceUnit) :
    (ofUnits id root batch lexicon ids units).1.SameFindings
      (ofUnits id' root batch' lexicon ids' units).1 where
  root_eq := rfl
  registry_eq := rfl
  members_eq := rfl
  edges_eq := by
    simp only [ofUnits, List.map_flatMap]
    congr 1
    funext f
    rw [ClassFindings.edges, ClassFindings.edges, List.map_map]
    rfl
  endpoints_eq := by
    simp only [ofUnits, map_mapping_endpointsOf]

/-- The edges of a class differ in their batch only. -/
lemma SameFindings.edgesFrom_eq {p q : ProjectData} (h : p.SameFindings q) (id : ClassId) :
    q.edgesFrom id = (p.edgesFrom id).map fun e => { e with batch := q.batch } := by
  rw [edgesFrom_eq_filter, edgesFrom_eq_filter, h.edges_eq, List.filter_map]
  rfl

lemma SameFindings.summaries_eq {p q : ProjectData} (h : p.SameFindings q) :
    q.summaries = p.summaries := by
  have hsummary : q.summary = p.summary := by
    funext package
    have hclasses : q.classesIn package = p.classesIn package := by
      rw [classesIn, classesIn, h.registry_eq]
    have hedges : (p.classesIn package).flatMap q.edgesFrom =
        ((p.classesIn package).flatMap p.edgesFrom).map fun e => { e with batch := q.batch } := by
      rw [List.map_flatMap, funext h.edgesFrom_eq]
    simp only [summary, hclasses, hedges, h.registry_eq, List.countP_map]
    rfl
  rw [summaries, summaries, hsummary, h.registry_eq]

end ProjectData

/-- A run that has source files to read and is not called off succeeds. It leaves out the bad files,
tells of them in the order of the scan, and counts the others as read. If all are bad, nothing is
registered; else the run over the disk from which the bad files are removed finds out the same, and
leaves out nothing. The request says what is recovered of files with syntax errors, and it can be
anything. -/
theorem analyze_without_bad_files {s : Settings} {d : Disk} {q : AnalysisRequest} {root : String}
    {files : List String} (hwf : d.tree.WellFormed) (hroot : d.projectRoot q.root = .ok root)
    (hfiles : d.sources s.scan root (.ofText q.pattern) = .ok files) (hne : files ≠ [])
    (hrun : q.cancelled = false) (ids : Supply) :
    let bad := files.filter (d.isBad s.analysis.tolerateSyntaxErrors)
    ∃ p report rest, s.analyze d ids q = .ok (p, report, rest) ∧
      report.skipped.map (·.path) = bad ∧
      report.filesScanned = files.length ∧
      report.filesParsed + report.skipped.length = report.filesScanned ∧
      (bad = files → p.registry = {}) ∧
      ∃ d', bad.foldlM Disk.remove? d = some d' ∧
        (bad ≠ files → ∀ ids', ∃ p' report' rest',
          s.analyze d' ids' q = .ok (p', report', rest') ∧ report'.skipped = [] ∧
            p.SameFindings p' ∧ report'.packages = report.packages) := by
  intro bad
  obtain ⟨parts, -, hat⟩ := Disk.exists_hasRoot hroot
  obtain ⟨d', hremove, hroot', hfiles', hsame⟩ :=
    hat.remove_sources hwf hfiles (d.isBad s.analysis.tolerateSyntaxErrors)
  have hskipped :
      (readSources d q.recovery s.analysis.tolerateSyntaxErrors files).2.map (·.path) = bad :=
    map_path_readSources q.recovery files
  have hnone : files.filter (fun path => !d.isBad s.analysis.tolerateSyntaxErrors path) = [] ↔
      bad = files := by
    simp [bad, List.filter_eq_nil_iff, List.filter_eq_self]
  refine ⟨_, _, _, Settings.analyze_eq hroot hfiles hne hrun ids, hskipped, rfl, ?_, ?_, d',
    hremove, ?_⟩
  · have hlength := congrArg List.length hskipped
    rw [List.length_map] at hlength
    have hle : bad.length ≤ files.length := List.length_filter_le _ _
    simp only [Report.filesParsed, Report.of, hlength]
    omega
  · intro hall
    simp only [units_readSources_of_bad q.recovery (hnone.mpr hall)]
    rfl
  · intro hsome ids'
    have hunits := readSources_filter q.recovery hsame
    have hfound := Settings.analyze_eq (hroot' _ hroot) hfiles' (hnone.not.mpr hsome) hrun ids'
    simp only [hunits] at hfound
    have hfindings := ProjectData.sameFindings_ofUnits (q.identity root ids.next.2).1
      (q.identity root ids'.next.2).1 root ids.next.1 ids'.next.1 q.lexicon
      (q.identity root ids.next.2).2 (q.identity root ids'.next.2).2
      (readSources d q.recovery s.analysis.tolerateSyntaxErrors files).1
    exact ⟨_, _, _, hfound, rfl, hfindings, hfindings.summaries_eq⟩

/-- A disk with two files that declare the same class, and three bad files: one that is not text,
one that cannot be read and one that is not Java. Another file is ignored. -/
def mixedDisk : Disk where
  tree := .directory [("app", .directory
    [(".ignore", .file (.ok "Old.java".toUTF8)),
      ("Bytes.java", .file (.ok ⟨#[255]⟩)),
      ("Copy.java", .file (.ok "package shop; class Shop \x7b\x7d".toUTF8)),
      ("Locked.java", .file (.error .denied)),
      ("Old.java", .file (.ok "class".toUTF8)),
      ("Shop.java", .file (.ok ("package shop; @RestController class Shop \x7b " ++
        "@GetMapping void buy() \x7b\x7d \x7d\n").toUTF8)),
      ("Torn.java", .file (.ok "class Torn \x7b".toUTF8))])]

/-- The source files of the disk, in the order of the scan. -/
def mixedFiles : List String :=
  ["/app/Bytes.java", "/app/Copy.java", "/app/Locked.java", "/app/Shop.java", "/app/Torn.java"]

lemma sources_mixedDisk : mixedDisk.sources {} "/app" (.ofText "**") = .ok mixedFiles := by
  have hroot : mixedDisk.parts "/app" = .ok ["app"] := by decide +kernel
  have hparts : mixedDisk.sourceParts {} "/app" (.ofText "**") ["app"] =
      [["Bytes.java"], ["Copy.java"], ["Locked.java"], ["Shop.java"], ["Torn.java"]] := by
    -- the walk finds the files in ascending order already
    refine (List.mergeSort_of_pairwise ?_).trans ?_ <;> decide +kernel
  rw [Disk.sources, hroot]
  simp only [hparts]
  decide +kernel

lemma mixedDisk_wellFormed : mixedDisk.tree.WellFormed ∧
    mixedDisk.projectRoot "/app/." = .ok "/app" ∧ mixedDisk.projectRoot "/app" = .ok "/app" := by
  decide +kernel

/-- The class whose body is not closed is told apart all the same. -/
def mixedRecovery : Recovery := fun _ _ => { types := [{ name := "Torn", kind := .classType }] }

/-- The registry of the disk, with or without the files that have syntax errors. -/
def mixedRegistry (tolerates : Bool) : Registry :=
  .ofUnits "/app" (readSources mixedDisk mixedRecovery tolerates mixedFiles).1

lemma mixed_readings :
    mixedFiles.filter (mixedDisk.isBad false) =
        ["/app/Bytes.java", "/app/Locked.java", "/app/Torn.java"] ∧
      mixedFiles.filter (mixedDisk.isBad true) = ["/app/Bytes.java", "/app/Locked.java"] ∧
      ∀ tolerates, (mixedRegistry tolerates).contains "<default>.Torn" = tolerates := by
  decide +kernel

/-- Of five source files two are read, or three if syntax errors are tolerated: the torn one then
counts with the class that is recovered of it. Either way the run finds out the same without the
others. -/
theorem analyze_without_bad_files_mixed :
    let q : AnalysisRequest := { root := "/app/.", recovery := mixedRecovery }
    let Outcome (tolerateSyntaxErrors : Bool) (bad : List String) (parsed : Nat) : Prop :=
      let s : Settings := { analysis := { tolerateSyntaxErrors } }
      ∃ p report rest, s.analyze mixedDisk { draw := .ofNat } q = .ok (p, report, rest) ∧
        report.skipped.map (·.path) = bad ∧ report.filesParsed = parsed ∧
        p.registry.contains "<default>.Torn" = tolerateSyntaxErrors ∧
        ∃ d', bad.foldlM Disk.remove? mixedDisk = some d' ∧
          ∀ ids', ∃ p' report' rest',
            s.analyze d' ids' q = .ok (p', report', rest') ∧ p.SameFindings p'
    mixedDisk.tree.WellFormed ∧
      Outcome false ["/app/Bytes.java", "/app/Locked.java", "/app/Torn.java"] 2 ∧
      Outcome true ["/app/Bytes.java", "/app/Locked.java"] 3 := by
  intro q Outcome
  obtain ⟨hwf, hroot, -⟩ := mixedDisk_wellFormed
  obtain ⟨hbad, hunreadable, hregistry⟩ := mixed_readings
  have houtcome (tolerates : Bool) (bad : List String) (parsed : Nat)
      (hbad : mixedFiles.filter (mixedDisk.isBad tolerates) = bad) (hsome : bad ≠ mixedFiles)
      (hparsed : parsed + bad.length = 5) : Outcome tolerates bad parsed := by
    obtain ⟨p, report, rest, hok, hskipped, hscanned, hsum, -, d', hremove, hsame⟩ :=
      analyze_without_bad_files (s := { analysis := { tolerateSyntaxErrors := tolerates } })
        (q := q) hwf hroot sources_mixedDisk (by decide) rfl { draw := .ofNat }
    have hskipped : report.skipped.map (·.path) = bad := hskipped.trans hbad
    refine ⟨p, report, rest, hok, hskipped, ?_, ?_, d', ?_, fun ids' => ?_⟩
    · rw [hscanned, ← List.length_map, hskipped] at hsum
      exact Nat.add_right_cancel (hsum.trans hparsed.symm)
    · cases hok.symm.trans
        (Settings.analyze_eq hroot sources_mixedDisk (by decide) rfl { draw := .ofNat })
      exact hregistry tolerates
    · rw [← hbad]
      exact hremove
    · obtain ⟨p', report', rest', hok', -, hfindings, -⟩ := hsame (hbad.trans_ne hsome) ids'
      exact ⟨p', report', rest', hok', hfindings⟩
  exact ⟨hwf, houtcome _ _ _ hbad (by decide) rfl,
    houtcome _ _ _ hunreadable (by decide) rfl⟩

end Cartograph
