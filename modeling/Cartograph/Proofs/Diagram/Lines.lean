import Cartograph.Proofs.Diagram.Labels
import Cartograph.Proofs.Diagram.Tables
import Cartograph.Proofs.Text.Pieces

/-!
# The lines of a diagram

The text of a diagram is told by its data. There is a first line, a block for each class in the
order of the classes, and an arrow for each entry of the table of dependencies. Since no name and no
label breaks a line, cutting the text at its newlines gives these lines back, whatever the sources
contain.
-/

namespace Cartograph

open Text

namespace Diagram

/-- A class among the given ones has an edge of implementation to the class. -/
def ImplementedIn (p : ProjectData) (ids : List ClassId) (id : ClassId) : Prop :=
  ∃ s ∈ ids, ∃ x ∈ p.edges, x.kind = .implementing ∧ x.source = s ∧ x.targetClass = some id

instance (p : ProjectData) (ids : List ClassId) (id : ClassId) :
    Decidable (ImplementedIn p ids id) :=
  inferInstanceAs (Decidable (∃ s ∈ ids, ∃ x ∈ p.edges,
    x.kind = .implementing ∧ x.source = s ∧ x.targetClass = some id))

/-- The lines that a class with the given members has among the selected classes. -/
def classBlock (p : ProjectData) (e : Endpoint) (ids : List ClassId) (members : List MemberInfo)
    (c : ClassInfo) : List String :=
  ["    class " ++ sanitizeName c.simpleName ++ " \x7b"] ++
    (if c.id = e.classId then
      ["        <<\"" ++ escapeLabel (e.uri ++ "(" ++ e.verb.name ++ ")") ++ "\">>"]
    else []) ++
    (if ImplementedIn p ids c.id then ["        <<interface>>"] else []) ++
    (members.map MemberInfo.render).eraseDups.map ("        " ++ ·) ++
    ["    \x7d"]

section Lines

variable {p : ProjectData} {depth : Nat} {e : Endpoint}

/-! ### Blocks -/

lemma isImplemented_iff {ids : List ClassId} {id : ClassId}
    (hids : ∀ s ∈ ids, s < p.registry.classes.length) (hid : id < p.registry.classes.length) :
    isImplemented (Graph.ofProject p) ids id = true ↔ ImplementedIn p ids id := by
  have hany : isImplemented (Graph.ofProject p) ids id = true ↔
      ∃ s ∈ ids, ∃ kinds, (s, kinds) ∈ (Graph.ofProject p).dependents id ∧
        .implementing ∈ kinds := by
    simp only [isImplemented, List.any_eq_true, Bool.and_eq_true, List.contains_iff_mem]
    constructor
    · rintro ⟨⟨s, kinds⟩, hx, hs, hkind⟩
      exact ⟨s, hs, kinds, hx, hkind⟩
    · rintro ⟨s, hs, kinds, hx, hkind⟩
      exact ⟨(s, kinds), hx, hs, hkind⟩
  rw [hany, ImplementedIn]
  refine exists_congr fun s => and_congr_right fun hs => ?_
  rw [Graph.exists_mem_dependents]
  exact and_iff_left ⟨hids s hs, hid⟩

lemma blockLines_eq_classBlock (he : ∃ c, p.registry.class? e.classId = some c) {c : ClassInfo}
    (hc : c ∈ (build p depth e).classes) (members : List MemberInfo) :
    blockLines e (isImplemented (Graph.ofProject p) (selected p depth e) c.id) members c =
      classBlock p e (selected p depth e) members c := by
  have hids : ∀ s ∈ selected p depth e, s < p.registry.classes.length := fun s hs =>
    Registry.exists_class?_iff.mp (registered_of_mem_selected he hs)
  rw [blockLines, classBlock, fresh_eq_eraseDups]
  simp only [isImplemented_iff hids (lt_of_mem_classes_build hc)]

lemma oneLine_of_mem_classBlock {ids : List ClassId} {members : List MemberInfo} {c : ClassInfo}
    {line : String} (h : line ∈ classBlock p e ids members c) : OneLine line := by
  simp only [classBlock, List.mem_append, List.mem_map, List.mem_eraseDups, List.mem_singleton] at h
  rcases h with (((rfl | h) | h) | ⟨_, ⟨m, -, rfl⟩, rfl⟩) | rfl
  · exact (OneLine.append (by decide) (oneLine_sanitizeName _)).append (by decide)
  · split_ifs at h
    · rw [List.mem_singleton.mp h]
      exact (OneLine.append (by decide) (oneLine_escapeLabel _)).append (by decide)
    · cases h
  · split_ifs at h
    · rw [List.mem_singleton.mp h]
      decide
    · cases h
  · exact OneLine.append (by decide) (oneLine_render m)
  · decide

/-! ### Arrows -/

lemma oneLine_arrowLine (source target : String) (labels : List String) :
    OneLine (arrowLine source target labels) := by
  have hsource := OneLine.append (s := "    ") (by decide) (oneLine_sanitizeName source)
  have harrow := (hsource.append (t := " --> ") (by decide)).append (oneLine_sanitizeName target)
  exact (harrow.append (by decide)).append (oneLine_escapeLabel _)

/-- A registered class as an entry of the diagram. -/
def infoOf (p : ProjectData) (r : ClassRecord) : ClassInfo :=
  ⟨(p.registry.lookup? r.fqn).getD 0, r.fqn, r.simpleName⟩

/-- The targets that a diagram shows for a class are classes of the diagram. -/
lemma infoOf_mem_classes_build (hp : p.registry.Built) {c : ClassInfo}
    (hc : c ∈ (build p depth e).classes) {x : ClassRecord × List String}
    (hx : x ∈ targets p depth e c) : infoOf p x.1 ∈ (build p depth e).classes := by
  obtain ⟨t, ht, hr, -⟩ := (mem_targetsOf (lt_of_mem_classes_build hc)).mp hx
  have hid : (infoOf p x.1).id = t := by
    rw [infoOf, Registry.lookup?_fqn hp.nodup_fqns hr, Option.getD_some]
  exact mem_classes_build.mpr ⟨hid ▸ ht, x.1, hid ▸ hr, rfl, rfl⟩

/-! ### The text -/

/-- The members that a diagram shows for a class. -/
def shownMembers (p : ProjectData) (depth : Nat) (e : Endpoint) (c : ClassInfo) :
    List MemberInfo :=
  membersOf p (selected p depth e) c.id

/-- The lines of the text, in terms of the classes and of what is shown for each. -/
def lines (p : ProjectData) (depth : Nat) (e : Endpoint) : List String :=
  ["classDiagram"] ++
    (build p depth e).classes.flatMap (fun c =>
      classBlock p e (selected p depth e) (shownMembers p depth e c) c) ++
    (build p depth e).classes.flatMap fun c =>
      (targets p depth e c).map fun x => arrowLine c.simpleName x.1.simpleName x.2

lemma text_build (he : ∃ c, p.registry.class? e.classId = some c) :
    (build p depth e).text = String.join ((lines p depth e).map (· ++ String.singleton '\n')) := by
  have hblocks : (build p depth e).classes.flatMap (fun c =>
        blockLines e (isImplemented (Graph.ofProject p) (selected p depth e) c.id)
          (shownMembers p depth e c) c) =
      (build p depth e).classes.flatMap (fun c =>
        classBlock p e (selected p depth e) (shownMembers p depth e c) c) :=
    List.flatMap_congr fun c hc => blockLines_eq_classBlock he hc _
  have harrows : (build p depth e).classes.flatMap (fun c => arrowLines c (targets p depth e c)) =
      (build p depth e).classes.flatMap fun c =>
        (targets p depth e c).map fun x => arrowLine c.simpleName x.1.simpleName x.2 :=
    List.flatMap_congr fun c hc => arrowLines_targets hc
  rw [lines, ← hblocks, ← harrows]
  rfl

lemma oneLine_of_mem_lines {line : String} (h : line ∈ lines p depth e) : OneLine line := by
  simp only [lines, List.mem_append, List.mem_singleton, List.mem_flatMap, List.mem_map] at h
  rcases h with (rfl | ⟨c, -, hblock⟩) | ⟨c, -, x, -, rfl⟩
  · decide
  · exact oneLine_of_mem_classBlock hblock
  · exact oneLine_arrowLine _ _ _

lemma pieces_text_build (he : ∃ c, p.registry.class? e.classId = some c) :
    pieces '\n' (build p depth e).text = lines p depth e ++ [""] := by
  rw [text_build he, pieces_join_lines fun _ => oneLine_of_mem_lines]

/-- The classes of a diagram stand in the order in which they are selected. -/
lemma map_id_classes_build (he : ∃ c, p.registry.class? e.classId = some c) :
    (build p depth e).classes.map (·.id) = selected p depth e := by
  have hsome : ∀ id ∈ selected p depth e,
      ((p.registry.class? id).map fun c => (⟨id, c.fqn, c.simpleName⟩ : ClassInfo)).map (·.id) =
        some id := by
    intro id hid
    obtain ⟨c, hc⟩ := registered_of_mem_selected he hid
    rw [hc, Option.map_some, Option.map_some]
  calc (build p depth e).classes.map (·.id)
      = (selected p depth e).filterMap fun id =>
          ((p.registry.class? id).map fun c => (⟨id, c.fqn, c.simpleName⟩ : ClassInfo)).map
            (·.id) := List.map_filterMap
    _ = (selected p depth e).filterMap some := List.filterMap_congr hsome
    _ = selected p depth e := List.filterMap_some

end Lines

/-- The text of a diagram, cut at its newlines, is its first line, a block for each class and an
arrow for each entry of the table of dependencies, and an empty rest. The members of a block are
those of the class in the table of members, and the arrows from a class are, up to their order, the
entries below it. -/
theorem text_cut_at_newlines (p : ProjectData) (hp : p.registry.Built) (depth : Nat)
    (e : Endpoint) (he : ∃ c, p.registry.class? e.classId = some c) :
    ∃ d, ofEndpoint p depth e = .ok d ∧ d.classes.map (·.id) = selected p depth e ∧
      IsTable d.members ∧ (d.members.map (·.1)).Perm (d.classes.map (·.fqn)) ∧
      IsTable d.dependencies ∧ (d.dependencies.map (·.1)).Perm (d.classes.map (·.fqn)) ∧
      ∃ (members : ClassInfo → List MemberInfo)
        (arrows : ClassInfo → List (ClassInfo × List String)),
        (∀ c ∈ d.classes, (c.fqn, members c) ∈ d.members) ∧
        (∀ c ∈ d.classes, (∀ x ∈ arrows c, x.1 ∈ d.classes) ∧
          ∃ row, (c.fqn, row) ∈ d.dependencies ∧
            ((arrows c).map fun x => (x.1.fqn, x.2)).Perm row) ∧
        pieces '\n' d.text = ["classDiagram"] ++
          d.classes.flatMap (fun c => classBlock p e (selected p depth e) (members c) c) ++
          d.classes.flatMap (fun c =>
            (arrows c).map fun x => arrowLine c.simpleName x.1.simpleName x.2) ++ [""] := by
  refine ⟨build p depth e, ofEndpoint_eq_ok he, map_id_classes_build he,
    isTable_tableOf_classes_build hp _, keys_tableOf_perm _ _,
    isTable_tableOf_classes_build hp _, keys_tableOf_perm _ _, shownMembers p depth e,
    fun c => (targets p depth e c).map fun x => (infoOf p x.1, x.2), ?_, ?_, ?_⟩
  · exact fun c hc => mem_tableOf.mpr ⟨c, hc, rfl⟩
  · intro c hc
    constructor
    · simp only [List.mem_map]
      rintro _ ⟨x, hx, rfl⟩
      exact infoOf_mem_classes_build hp hc hx
    · refine ⟨dependenciesOf p depth e c, mem_tableOf.mpr ⟨c, hc, rfl⟩, ?_⟩
      rw [List.map_map]
      exact (byKey_perm _).symm
  · simp only [List.map_map]
    exact pieces_text_build he

/-- A class whose name, field and calls try to break the lines. -/
def broken : ProjectData where
  id := bills.id
  root := bills.root
  registry := .ofRegistrations [.type "" "Note\n\x7d" .classType none]
  members := [⟨0, "a\nb", some "x.Text\n", .privateAccess, .field, []⟩,
    ⟨0, "a b", some "Text", .privateAccess, .field, []⟩]
  edges := [⟨0, "", "", some 0, .staticCall, .ofNat 1⟩]
  endpoints := bills.endpoints
  batch := bills.batch

/-- Newlines in a name, in the type of a member and in the path of the endpoint do not make a line of
their own, and the second of two members that are shown alike is left out. -/
theorem text_cut_at_newlines_broken :
    let e : Endpoint := ⟨.ofNat 2, 0, "/no\nte", .get⟩
    let lines := ["classDiagram", "    class Note \x7b", "        <<\"/no te(GET)\">>",
      "        -a_b : Text", "    \x7d", "    Note --> Note : " ++ Kind.staticCall.label, ""]
    broken.registry.Built ∧ (∃ c, broken.registry.class? e.classId = some c) ∧
      ∃ d, ofEndpoint broken 1 e = .ok d ∧ pieces '\n' d.text = lines ∧
        ∃ (members : ClassInfo → List MemberInfo)
          (arrows : ClassInfo → List (ClassInfo × List String)),
          (∀ c ∈ d.classes, (c.fqn, members c) ∈ d.members) ∧
          ["classDiagram"] ++
            d.classes.flatMap (fun c => classBlock broken e (selected broken 1 e) (members c) c) ++
            d.classes.flatMap (fun c =>
              (arrows c).map fun x => arrowLine c.simpleName x.1.simpleName x.2) ++ [""] =
            lines := by
  intro e lines
  have hp : broken.registry.Built := ⟨_, rfl⟩
  have he : ∃ c, broken.registry.class? e.classId = some c := ⟨_, rfl⟩
  refine ⟨hp, he, ?_⟩
  obtain ⟨d, hd, -, -, -, -, -, members, arrows, hmembers, -, htext⟩ :=
    text_cut_at_newlines broken hp 1 e he
  obtain rfl : build broken 1 e = d := Except.ok.inj hd
  have hlines : pieces '\n' (build broken 1 e).text = lines := by decide +kernel
  exact ⟨_, hd, hlines, members, arrows, hmembers, htext.symm.trans hlines⟩

end Diagram

end Cartograph
