import Cartograph.Proofs.Analysis.SkippedFiles
import Cartograph.Proofs.Diagram.Tables
import Cartograph.Proofs.Registry.Registrations
import Cartograph.Proofs.Text.Dotted

/-!
# The sources of what was analysed

As long as the disk stays as it was, the file that is recorded for a class of a project is there and
declares the class, also if several files do: the path and the declaration come from the same one,
the last that was read. So a class is located by its recorded path alone, and an export shows the
files of the classes of a diagram, none of them missing.

Neither the search by convention nor the search by name is ever reached, and the settings of the
scan do not matter.
-/

namespace Cartograph

open Text Java

/-! ### Recorded paths -/

namespace Registry

variable {root : String} {units : List SourceUnit} {key : String}

lemma exists_unit_of_pathUnder? {x : Registration} {path : String}
    (hx : x ∈ units.flatMap (·.registrations root)) (hpath : x.pathUnder? key = some path) :
    ∃ u ∈ units, (∃ t ∈ u.types, classKey (u.package.getD "") t.name = key) ∧
      path = (Path.relativeTo? root u.path).getD u.path := by
  obtain ⟨u, hu, hx⟩ := List.mem_flatMap.mp hx
  rcases List.mem_cons.mp hx with rfl | hx
  · cases hpath
  · obtain ⟨t, ht, rfl⟩ := List.mem_map.mp hx
    obtain ⟨data, hdata, hpath⟩ := Option.bind_eq_some_iff.mp hpath
    simp only [Registration.dataUnder?] at hdata
    split_ifs at hdata with hkey
    cases hdata
    cases hpath
    exact ⟨u, hu, ⟨t, ht, hkey⟩, rfl⟩

lemma exists_pathUnder? {x : Registration} (hx : x ∈ units.flatMap (·.registrations root))
    (hkey : x.key? = some key) : ∃ path, x.pathUnder? key = some path := by
  obtain ⟨u, hu, hx⟩ := List.mem_flatMap.mp hx
  rcases List.mem_cons.mp hx with rfl | hx
  · cases hkey
  · obtain ⟨t, ht, rfl⟩ := List.mem_map.mp hx
    refine ⟨(Path.relativeTo? root u.path).getD u.path, ?_⟩
    rw [Registration.pathUnder?, Registration.dataUnder?_of_eq (Option.some.inj hkey),
      Option.bind_some]

/-- The path that is recorded for a class is that of a file that declares it. -/
lemma exists_unit_of_mem_classes {c : ClassRecord} (hc : c ∈ (ofUnits root units).classes) :
    ∃ u ∈ units, (∃ t ∈ u.types, classKey (u.package.getD "") t.name = c.fqn) ∧
      c.sourcePath = some ((Path.relativeTo? root u.path).getD u.path) := by
  rw [ofUnits_eq_ofRegistrations] at hc
  have hsums := (records_ofRegistrations _).sumsUp c hc
  obtain ⟨first, hfirst, -⟩ := hsums.first
  obtain ⟨path, hpath⟩ := exists_pathUnder? (List.mem_of_find?_eq_some hfirst)
    (by simpa using List.find?_some hfirst)
  have hne : (units.flatMap (·.registrations root)).filterMap (·.pathUnder? c.fqn) ≠ [] :=
    List.ne_nil_of_mem (List.mem_filterMap.mpr ⟨first, List.mem_of_find?_eq_some hfirst, hpath⟩)
  have hlast := List.getLast?_eq_some_getLast hne
  obtain ⟨x, hx, hpath⟩ := List.mem_filterMap.mp (List.getLast_mem hne)
  obtain ⟨u, hu, hdeclares, heq⟩ := exists_unit_of_pathUnder? hx hpath
  refine ⟨u, hu, hdeclares, ?_⟩
  rw [← hsums.last_path, hlast, heq]

end Registry

/-! ### Files that were read -/

section

variable {d : Disk} {recovery : Recovery} {tolerates : Bool} {files : List String} {path : String}
  {u : SourceUnit}

lemma exists_of_mem_readSources (h : u ∈ (readSources d recovery tolerates files).1) :
    ∃ path ∈ files, readSource recovery tolerates path (d.read path) = .ok u := by
  induction files with
  | nil => cases h
  | cons path files ih =>
    have hlater : u ∈ (readSources d recovery tolerates files).1 →
        ∃ path' ∈ path :: files, readSource recovery tolerates path' (d.read path') = .ok u := by
      intro hmem
      obtain ⟨path', hpath', hread⟩ := ih hmem
      exact ⟨path', List.mem_cons_of_mem _ hpath', hread⟩
    cases hread : readSource recovery tolerates path (d.read path) with
    | error file =>
      simp only [readSources, hread] at h
      exact hlater h
    | ok unit =>
      simp only [readSources, hread] at h
      rcases List.mem_cons.mp h with rfl | h
      · exact ⟨path, List.mem_cons_self, hread⟩
      · exact hlater h

/-- The unit of a file is what its text is read as; the recovery has no part in it unless syntax
errors are tolerated. -/
lemma exists_of_readSource (h : readSource recovery tolerates path (d.read path) = .ok u) :
    ∃ source, d.readText path = .ok source ∧ SourceUnit.read recovery path source = u ∧
      (tolerates = false → SourceUnit.parse? path source = some u) := by
  rcases readSource_cases d recovery tolerates path with
    ⟨hgood, source, htext, hread⟩ | ⟨-, reason, hread⟩
  · cases hread.symm.trans h
    refine ⟨source, htext, rfl, ?_⟩
    rintro rfl
    cases hparse : SourceUnit.parse? path source with
    | some u => rw [SourceUnit.read, hparse, Option.getD_some]
    | none => simp [Disk.isBad, htext, hparse] at hgood
  · cases hread.symm.trans h

lemma Disk.isFile_of_readText {source : String} (h : d.readText path = .ok source) :
    d.isFile path = true := by
  rw [readText] at h
  cases hread : d.read path with
  | error fault => simp [hread] at h
  | ok content =>
    unfold read at hread
    split at hread
    · cases hread
    · rename_i parts hparts
      split at hread
      · rename_i hfile
        simp [isFile, node?, hparts, Except.toOption, hfile, FileTree.isDirectory]
      · cases hread
      · cases hread

end

/-! ### Paths below the root -/

lemma Path.subset_join (base path : String) : path.toList ⊆ (join base path).toList := by
  unfold join
  split_ifs <;> simp

/-- The path of a source file below the root, seen from the root. -/
lemma Disk.HasRoot.exists_relative {d : Disk} {s : ScanSettings} {pattern : PackagePattern}
    {root : String} {parts files : List String} (h : d.HasRoot root parts)
    (hwf : d.tree.WellFormed) (hfiles : d.sources s root pattern = .ok files) {path : String}
    (hpath : path ∈ files) :
    ∃ relative, Path.relativeTo? root path = some relative ∧ Path.join root relative = path := by
  obtain rfl := Except.ok.inj ((h.sources_eq hwf).symm.trans hfiles)
  obtain ⟨place, hplace, rfl⟩ := List.mem_map.mp hpath
  obtain ⟨below, hbelow, rfl⟩ := List.mem_map.mp hplace
  have hsource := h.isSource hwf hbelow
  rw [h.root_eq]
  exact ⟨"/".intercalate below, Path.relativeTo?_ofParts hsource.ne_nil h.entries hsource.entries,
    Path.join_ofParts hsource.ne_nil h.entries hsource.entries⟩

/-- The file that is recorded for a class is there, and as it was read it declares the class. -/
structure ClassRecord.IsSourced (c : ClassRecord) (d : Disk) (recovery : Recovery)
    (tolerates : Bool) (root relative source : String) : Prop where
  recorded : c.sourcePath = some relative
  plain : '\\' ∉ relative.toList
  read : d.readText (Path.join root relative) = .ok source
  declared : ∃ u, SourceUnit.read recovery (Path.join root relative) source = u ∧
    (tolerates = false → SourceUnit.parse? (Path.join root relative) source = some u) ∧
    ∃ t ∈ u.types, classKey (u.package.getD "") t.name = c.fqn

lemma exists_isSourced {d : Disk} {s : ScanSettings} {pattern : PackagePattern} {root : String}
    {parts files : List String} (h : d.HasRoot root parts) (hwf : d.tree.WellFormed)
    (hfiles : d.sources s root pattern = .ok files) (hplain : ∀ path ∈ files, '\\' ∉ path.toList)
    {recovery : Recovery} {tolerates : Bool} {c : ClassRecord}
    (hc : c ∈ (Registry.ofUnits root (readSources d recovery tolerates files).1).classes) :
    ∃ relative source, c.IsSourced d recovery tolerates root relative source := by
  obtain ⟨u, hu, ⟨t, ht, hkey⟩, hrecorded⟩ := Registry.exists_unit_of_mem_classes hc
  obtain ⟨path, hpath, hread⟩ := exists_of_mem_readSources hu
  obtain ⟨source, htext, rfl, hparse⟩ := exists_of_readSource hread
  obtain ⟨relative, hrelative, rfl⟩ := h.exists_relative hwf hfiles hpath
  rw [path_read, hrelative] at hrecorded
  exact ⟨relative, source, hrecorded, fun hmem => hplain _ hpath (Path.subset_join _ _ hmem),
    htext, _, rfl, hparse, t, ht, hkey⟩

/-! ### Locating and exporting -/

namespace ClassRecord.IsSourced

variable {c : ClassRecord} {d : Disk} {recovery : Recovery} {tolerates : Bool}
  {root relative source : String}

-- The class is located under any recovery, since the search by name is never reached.
lemma locate?_eq (h : c.IsSourced d recovery tolerates root relative source)
    (recovery' : Recovery) (s : ScanSettings) (fqn : String) :
    d.locate? recovery' s root fqn (some relative) =
      some ⟨relative, Path.join root relative⟩ := by
  have hfile := Disk.isFile_of_readText h.read
  simp only [Disk.locate?, Option.toList_some, List.singleton_append, List.find?_cons, hfile]

lemma exportSection_eq (h : c.IsSourced d recovery tolerates root relative source)
    (recovery' : Recovery) (s : ScanSettings) (fqn : String) :
    d.exportSection recovery' s root fqn relative =
      "===== FILE: " ++ relative ++ " =====\n" ++
        (source ++ if source.endsWith "\n" then "\n" else "\n\n") := by
  have hexported : d.exported (Path.join root relative) =
      source ++ if source.endsWith "\n" then "\n" else "\n\n" := by
    simp only [Disk.exported, h.read]
  delta Disk.exportSection
  simp only [h.locate?_eq, hexported]

lemma pathOf_eq (h : c.IsSourced d recovery tolerates root relative source) :
    Diagram.pathOf c = relative := by
  simp only [Diagram.pathOf, h.recorded, replaceChar_of_not_mem h.plain]

end ClassRecord.IsSourced

namespace Diagram

lemma tableOf_eq_map {α : Type} (classes : List ClassInfo) (entry : ClassInfo → α) :
    tableOf classes entry =
      (classes.mergeSort fun a b => a.fqn ≤ b.fqn).map fun c => (c.fqn, entry c) := by
  symm
  exact List.map_mergeSort fun _ _ _ _ => rfl

/-- The paths of a diagram are those of its classes. -/
lemma paths_build (p : ProjectData) (depth : Nat) (e : Endpoint) :
    (build p depth e).paths = tableOf (build p depth e).classes fun c =>
      ((p.registry.class? c.id).map pathOf).getD "" := by
  have hentries : (selected p depth e).filterMap (fun id =>
        (p.registry.class? id).map fun c => (c.fqn, pathOf c)) =
      (infos p (selected p depth e)).map fun c =>
        (c.fqn, ((p.registry.class? c.id).map pathOf).getD "") := by
    rw [infos, List.map_filterMap]
    apply List.filterMap_congr
    intro id _
    cases hc : p.registry.class? id with
    | none => rfl
    | some c => simp [hc]
  exact congrArg byKey hentries

lemma pairwise_lt_mergeSort_classes {p : ProjectData} (hp : p.registry.fqns.Nodup) (depth : Nat)
    (e : Endpoint) :
    ((build p depth e).classes.mergeSort fun a b => a.fqn ≤ b.fqn).Pairwise
      fun a b => a.fqn < b.fqn := by
  have hkeys : ((build p depth e).classes.mergeSort fun a b => a.fqn ≤ b.fqn).map (·.fqn) =
      ((build p depth e).classes.map (·.fqn)).mergeSort (· ≤ ·) :=
    List.map_mergeSort fun _ _ _ _ => rfl
  rw [← List.pairwise_map, hkeys]
  exact pairwise_lt_mergeSort (nodup_map_fqn_infos hp (nodup_selected p depth e))

end Diagram

/-- The text is the section of a class in an export: a heading with the path that is recorded for
it, and the content of the file there. -/
def ProjectData.IsSection (p : ProjectData) (d : Disk) (c : ClassInfo) (text : String) : Prop :=
  ∃ r relative source, p.registry.class? c.id = some r ∧ r.fqn = c.fqn ∧
    r.sourcePath = some relative ∧ d.readText (Path.join p.root relative) = .ok source ∧
    text = "===== FILE: " ++ relative ++ " =====\n" ++
      (source ++ if source.endsWith "\n" then "\n" else "\n\n")

lemma Workspace.build_of_diagram {w : Workspace} {endpoint project : Uuid} {p : ProjectData}
    {drawn : Diagram} (hp : w.store.project project = .ok p)
    (h : w.diagram endpoint project = .ok drawn) :
    ∃ e, drawn = Diagram.build p w.settings.diagram.maxDepth e := by
  rw [diagram, hp] at h
  cases he : p.endpoint? endpoint with
  | none => simp [he] at h
  | some e =>
    simp only [he, Diagram.ofEndpoint] at h
    split at h
    · cases h
      exact ⟨e, rfl⟩
    · cases h

/-- A class whose recorded file is there is located by it. -/
lemma Workspace.locate_of_isSourced {w : Workspace} {project : Uuid} {p : ProjectData}
    (hp : w.store.project project = .ok p) (hkeys : p.registry.fqns.Nodup) {c : ClassRecord}
    (hc : c ∈ p.registry.classes) {d : Disk} {recovery : Recovery} {tolerates : Bool}
    {relative source : String} (h : c.IsSourced d recovery tolerates p.root relative source) :
    w.locate d project c.fqn = .ok ⟨relative, Path.join p.root relative⟩ := by
  obtain ⟨id, hid⟩ := List.getElem?_of_mem hc
  have hlookup : p.registry.lookup? c.fqn = some id := Registry.lookup?_fqn hkeys hid
  have hclass : p.registry.class? id = some c := hid
  rw [locate, hp]
  simp only [hlookup, hclass, Option.bind_some, h.recorded, Option.map_some,
    replaceChar_of_not_mem h.plain, h.locate?_eq]

/-- The export of a diagram whose classes have their files. -/
lemma exists_sections {p : ProjectData} {d : Disk} {recovery : Recovery} {tolerates : Bool}
    (hkeys : p.registry.fqns.Nodup)
    (h : ∀ c ∈ p.registry.classes, ∃ relative source,
      c.IsSourced d recovery tolerates p.root relative source)
    (recovery' : Recovery) (s : ScanSettings) (depth : Nat) (e : Endpoint) :
    ∃ cs texts, cs.Perm (Diagram.build p depth e).classes ∧
      cs.Pairwise (fun a b => a.fqn < b.fqn) ∧ List.Forall₂ (p.IsSection d) cs texts ∧
      d.exportSources recovery' s p.root (Diagram.build p depth e).paths = String.join texts := by
  let cs := (Diagram.build p depth e).classes.mergeSort fun a b => a.fqn ≤ b.fqn
  let text (c : ClassInfo) : String :=
    d.exportSection recovery' s p.root c.fqn
      (((p.registry.class? c.id).map Diagram.pathOf).getD "")
  refine ⟨cs, cs.map text, List.mergeSort_perm _ _,
    Diagram.pairwise_lt_mergeSort_classes hkeys depth e, ?_, ?_⟩
  · rw [List.forall₂_map_right_iff, List.forall₂_same]
    intro c hc
    obtain ⟨-, r, hr, hfqn, -⟩ := Diagram.mem_classes_build.mp (List.mem_mergeSort.mp hc)
    obtain ⟨relative, source, hsourced⟩ := h r (List.mem_of_getElem? hr)
    refine ⟨r, relative, source, hr, hfqn.symm, hsourced.recorded, hsourced.read, ?_⟩
    simp only [text, hr, Option.map_some, Option.getD_some, hsourced.pathOf_eq,
      hsourced.exportSection_eq]
  · rw [Disk.exportSources, Diagram.paths_build, Diagram.tableOf_eq_map, List.map_map]
    rfl

/-- After an analysis, as long as the disk stays as it is and the project stored, each class is
located by the path that is recorded for it, and the file there declares it, as it was read: without
syntax errors, unless these are tolerated. The export of any diagram of the project has one section
for each of its classes, in ascending order of their names, with the recorded path and the content
of the file. -/
theorem sources_after_analysis {w w₁ : Workspace} {d : Disk} {ids ids₁ : Supply}
    {root pattern : String} {cancelled : Bool} {report : Report} (hwf : d.tree.WellFormed)
    (hplain : ∀ canonical files, d.projectRoot root = .ok canonical →
      d.sources w.settings.scan canonical (.ofText pattern) = .ok files →
      ∀ path ∈ files, '\\' ∉ path.toList)
    (hrun : w.analyze d ids root pattern cancelled = .ok (w₁, report, ids₁)) :
    ∃ p, w₁.store.project report.project = .ok p ∧
      ∀ w' : Workspace, w'.store.project report.project = .ok p →
        (∀ c ∈ p.registry.classes, ∃ relative source u,
          c.sourcePath = some relative ∧
            w'.locate d report.project c.fqn = .ok ⟨relative, Path.join p.root relative⟩ ∧
            d.readText (Path.join p.root relative) = .ok source ∧
            SourceUnit.read w.recovery (Path.join p.root relative) source = u ∧
            (w.settings.analysis.tolerateSyntaxErrors = false →
              SourceUnit.parse? (Path.join p.root relative) source = some u) ∧
            ∃ t ∈ u.types, classKey (u.package.getD "") t.name = c.fqn) ∧
        ∀ endpoint drawn, w'.diagram endpoint report.project = .ok drawn →
          ∃ cs texts, cs.Perm drawn.classes ∧ cs.Pairwise (fun a b => a.fqn < b.fqn) ∧
            List.Forall₂ (p.IsSection d) cs texts ∧
            w'.exportSources d report.project drawn = .ok (String.join texts) := by
  obtain ⟨data, hroot, hanalyze, rfl⟩ := Workspace.analyze_inv hrun
  obtain ⟨-, -, hproject, files, hfiles, hunits⟩ := Settings.ofUnits_of_analyze hanalyze
  obtain ⟨parts, -, hat⟩ := Disk.exists_hasRoot hroot
  have hregistry : Registry.ofUnits data.root
        (readSources d w.recovery w.settings.analysis.tolerateSyntaxErrors files).1 =
      data.registry :=
    congrArg (fun found => found.1.registry) hunits
  have hkeys : data.registry.fqns.Nodup := by
    rw [← hregistry]
    exact Registry.nodup_fqns_ofUnits _ _
  have hsourced : ∀ c ∈ data.registry.classes, ∃ relative source,
      c.IsSourced d w.recovery w.settings.analysis.tolerateSyntaxErrors data.root relative
        source := by
    intro c hc
    rw [← hregistry] at hc
    exact exists_isSourced hat hwf hfiles (hplain _ _ hroot hfiles) hc
  rw [hproject]
  refine ⟨data, Store.project_replace _ _, fun w' hw' => ⟨fun c hc => ?_, ?_⟩⟩
  · obtain ⟨relative, source, h⟩ := hsourced c hc
    obtain ⟨u, hunit, hparse, hdeclares⟩ := h.declared
    exact ⟨relative, source, u, h.recorded, Workspace.locate_of_isSourced hw' hkeys hc h, h.read,
      hunit, hparse, hdeclares⟩
  · intro endpoint drawn hdrawn
    obtain ⟨e, rfl⟩ := Workspace.build_of_diagram hw' hdrawn
    obtain ⟨cs, texts, hperm, horder, hsections, htext⟩ :=
      exists_sections hkeys hsourced w'.recovery w'.settings.scan w'.settings.diagram.maxDepth e
    refine ⟨cs, texts, hperm, horder, hsections, ?_⟩
    rw [Workspace.exportSources, hw', ← htext]
    rfl

lemma ProjectData.id_and_root_ofUnits (id : Uuid) (root : String) (batch : Uuid)
    (lexicon : Option Lexicon) (ids : Supply) (units : List SourceUnit) :
    (ofUnits id root batch lexicon ids units).1.id = id ∧
      (ofUnits id root batch lexicon ids units).1.root = root :=
  ⟨rfl, rfl⟩

lemma Report.project_of (p : ProjectData) (scanned : Nat) (skipped : List SkippedFile) :
    (Report.of p scanned skipped).project = p.id :=
  rfl

/-- What the files that can be read give. -/
def mixedFound : ProjectData × Supply :=
  ProjectData.ofUnits (.ofNat 1) "/app" (.ofNat 0) none { draw := .ofNat, drawn := 2 }
    (readSources mixedDisk .nothing false mixedFiles).1

lemma analyze_mixedDisk :
    ({} : Workspace).analyze mixedDisk { draw := .ofNat } "/app" "**" =
      .ok ({ store := ({} : Store).replace mixedFound.1 },
        .of mixedFound.1 5 (readSources mixedDisk .nothing false mixedFiles).2,
        mixedFound.2) := by
  obtain ⟨-, -, hroot⟩ := mixedDisk_wellFormed
  exact Workspace.analyze_of_run hroot
    (Settings.analyze_eq hroot sources_mixedDisk (by decide) rfl { draw := .ofNat })

/-- Two files declare the class: the second one is recorded, located and exported. -/
theorem sources_after_analysis_mixed :
    let w : Workspace := { store := ({} : Store).replace mixedFound.1 }
    mixedDisk.tree.WellFormed ∧
      (∃ report ids, ({} : Workspace).analyze mixedDisk { draw := .ofNat } "/app" "**" =
        .ok (w, report, ids)) ∧
      w.locate mixedDisk (.ofNat 1) "shop.Shop" = .ok ⟨"Shop.java", "/app/Shop.java"⟩ ∧
      ∃ drawn cs texts, w.diagram (.ofNat 2) (.ofNat 1) = .ok drawn ∧ cs.Perm drawn.classes ∧
        List.Forall₂ (mixedFound.1.IsSection mixedDisk) cs texts ∧
        w.exportSources mixedDisk (.ofNat 1) drawn = .ok (String.join texts) := by
  intro w
  obtain ⟨hwf, -, hroot⟩ := mixedDisk_wellFormed
  have hplain : ∀ canonical files, mixedDisk.projectRoot "/app" = .ok canonical →
      mixedDisk.sources {} canonical (.ofText "**") = .ok files →
      ∀ path ∈ files, '\\' ∉ path.toList := by
    intro canonical files hcanonical hfiles
    cases hroot.symm.trans hcanonical
    cases sources_mixedDisk.symm.trans hfiles
    exact List.forall_iff_forall_mem.mp (by decide)
  have hfacts : (∃ c ∈ mixedFound.1.registry.classes, c.fqn = "shop.Shop" ∧
        c.sourcePath = some "Shop.java") ∧
      (w.diagram (.ofNat 2) (.ofNat 1)).isOk = true ∧
      Path.join "/app" "Shop.java" = "/app/Shop.java" := by
    decide +kernel
  obtain ⟨⟨c, hc, hfqn, hpath⟩, hok, hjoin⟩ := hfacts
  obtain ⟨hid, happ⟩ : mixedFound.1.id = .ofNat 1 ∧ mixedFound.1.root = "/app" := by
    rw [mixedFound]
    exact ProjectData.id_and_root_ofUnits ..
  have hrun := analyze_mixedDisk
  generalize hreport : Report.of mixedFound.1 5 _ = report at hrun
  obtain ⟨p, hp, hall⟩ := sources_after_analysis (w := {}) hwf hplain hrun
  have hproject : report.project = .ofNat 1 := by
    rw [← hreport, ← hid]
    exact Report.project_of ..
  have hstored := Store.project_replace {} mixedFound.1
  rw [hid] at hstored
  rw [hproject] at hp hall
  obtain rfl : mixedFound.1 = p := Except.ok.inj (hstored.symm.trans hp)
  obtain ⟨hlocated, hexports⟩ := hall w hp
  refine ⟨hwf, ⟨_, _, hrun⟩, ?_, ?_⟩
  · obtain ⟨relative, source, u, hrecorded, hlocate, -⟩ := hlocated c hc
    cases hpath.symm.trans hrecorded
    rw [hfqn, happ, hjoin] at hlocate
    exact hlocate
  · cases hdrawn : w.diagram (.ofNat 2) (.ofNat 1) with
    | error failure =>
      rw [hdrawn] at hok
      cases hok
    | ok drawn =>
      obtain ⟨cs, texts, hperm, -, hsections, htext⟩ := hexports _ drawn hdrawn
      exact ⟨drawn, cs, texts, rfl, hperm, hsections, htext⟩

end Cartograph
