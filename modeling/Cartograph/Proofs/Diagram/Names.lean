import Cartograph.Proofs.Diagram.Lines
import Cartograph.Proofs.Text.Dotted

/-!
# The names in a diagram

Blocks and arrows name classes by their sanitized simple names only. The names are read back from
the text of a diagram, line by line, and compared with the classes that it shows. Two classes of one
diagram may have the same name; the names tell the classes apart exactly if the simple names of the
selected classes are still different when they are sanitized, and then each arrow stands for one
pair of classes.
-/

namespace Cartograph

open Text

namespace Text

lemma afterStart?_append (start rest : String) : afterStart? start (start ++ rest) = some rest := by
  have hstart : (start ++ rest).startsWith start = true := startsWith_iff.mpr ⟨rest, rfl⟩
  rw [afterStart?, if_pos hstart, String.toList_append, List.drop_left' String.length_toList,
    String.ofList_toList]

lemma beforeEnd?_append (start rest : String) : beforeEnd? rest (start ++ rest) = some start := by
  have hend : (start ++ rest).endsWith rest = true := by
    rw [endsWith_iff_suffix, String.toList_append]
    exact List.suffix_append _ _
  rw [beforeEnd?, if_pos hend, String.length_append, Nat.add_sub_cancel, String.toList_append,
    List.take_left' String.length_toList, String.ofList_toList]

/-- What stands at the start of a text and what follows make up the text. -/
lemma eq_append_of_afterStart? {start s rest : String} (h : afterStart? start s = some rest) :
    s = start ++ rest := by
  have hstart : s.startsWith start = true := by
    rw [afterStart?, Option.ite_none_right_eq_some] at h
    exact h.1
  obtain ⟨more, rfl⟩ := startsWith_iff.mp hstart
  rw [afterStart?_append, Option.some.injEq] at h
  rw [h]

lemma eq_append_of_beforeEnd? {s start rest : String} (h : beforeEnd? rest s = some start) :
    s = start ++ rest := by
  rw [beforeEnd?, Option.ite_none_right_eq_some, endsWith_iff_suffix] at h
  obtain ⟨⟨cs, hcs⟩, hstart⟩ := h
  have hlength : cs.length = s.length - rest.length := by
    have := congrArg List.length hcs
    rw [List.length_append, String.length_toList, String.length_toList] at this
    omega
  rw [← hcs, List.take_left' hlength, Option.some.injEq] at hstart
  rw [← String.toList_inj, String.toList_append, ← hcs, ← hstart, String.toList_ofList]

end Text

namespace Diagram

/-- The name under which a diagram shows a class. -/
def shownName (c : ClassInfo) : String := sanitizeName c.simpleName

def blockName? (line : String) : Option String :=
  ((afterStart? "    class " line).bind (beforeEnd? " \x7b")).filter (·.toList.all isNameChar)

def arrowEnds? (line : String) : Option (String × String) :=
  (afterStart? "    " line).bind fun rest =>
    (afterStart? " --> " (String.ofList (rest.toList.dropWhile isNameChar))).map fun target =>
      (String.ofList (rest.toList.takeWhile isNameChar),
        String.ofList (target.toList.takeWhile isNameChar))

def blockNames (text : String) : List String := (pieces '\n' text).filterMap blockName?

/-- The ends of the arrows of a text, in order. -/
def arrows (text : String) : List (String × String) := (pieces '\n' text).filterMap arrowEnds?

/-! ### Reading a line -/

/-- A line with the point of an arrow is not the first line of a block. -/
lemma blockName?_of_mem {line : String} (h : '>' ∈ line.toList) : blockName? line = none := by
  rw [blockName?, Option.filter_eq_none_iff]
  intro name hname hchars
  obtain ⟨rest, hrest, hend⟩ := Option.bind_eq_some_iff.mp hname
  rw [eq_append_of_afterStart? hrest, eq_append_of_beforeEnd? hend] at h
  simp only [String.toList_append, List.mem_append] at h
  rcases h with h | h | h
  · exact absurd h (by decide)
  · exact absurd (List.all_eq_true.mp hchars _ h) (by decide)
  · exact absurd h (by decide)

/-- An arrow has a point. -/
lemma arrowEnds?_of_not_mem {line : String} (h : '>' ∉ line.toList) : arrowEnds? line = none := by
  rw [arrowEnds?, Option.bind_eq_none_iff]
  intro rest hrest
  rw [Option.map_eq_none_iff, Option.eq_none_iff_forall_ne_some]
  intro target htarget
  have hdropped := congrArg String.toList (eq_append_of_afterStart? htarget)
  rw [String.toList_ofList, String.toList_append] at hdropped
  have hpoint : '>' ∈ rest.toList.dropWhile isNameChar := by
    rw [hdropped]
    exact List.mem_append_left _ (by decide)
  have hmem := (List.dropWhile_suffix isNameChar).subset hpoint
  rw [eq_append_of_afterStart? hrest, String.toList_append] at h
  exact h (List.mem_append_right _ hmem)

lemma blockName?_header (name : String) :
    blockName? ("    class " ++ sanitizeName name ++ " \x7b") = some (sanitizeName name) := by
  have hchars : (sanitizeName name).toList.all isNameChar = true :=
    List.all_eq_true.mpr fun _ => isNameChar_of_mem_sanitizeName
  rw [blockName?, String.append_assoc, afterStart?_append, Option.bind_some, beforeEnd?_append]
  exact Option.filter_some_pos hchars

lemma arrowEnds?_header (name : String) :
    arrowEnds? ("    class " ++ sanitizeName name ++ " \x7b") = none := by
  apply arrowEnds?_of_not_mem
  simp only [String.toList_append, List.mem_append, not_or]
  refine ⟨⟨by decide, fun h => ?_⟩, by decide⟩
  exact absurd (isNameChar_of_mem_sanitizeName h) (by decide)

/-- What stands inside a block is no first line of a block. -/
lemma blockName?_indented (s : String) : blockName? ("        " ++ s) = none := by
  have hstart : ("        " ++ s).startsWith "    class " = false := by
    rw [← Bool.not_eq_true, String.startsWith_string_iff, String.toList_append,
      ← List.isPrefixOf_iff_prefix]
    exact Bool.false_ne_true
  rw [blockName?, afterStart?, hstart]
  rfl

/-- What stands inside a block is no arrow. -/
lemma arrowEnds?_indented (s : String) : arrowEnds? ("        " ++ s) = none := by
  have hline : "        " ++ s = "    " ++ ("    " ++ s) := by
    rw [← String.append_assoc]
    rfl
  have hstart : (String.ofList (("    " ++ s).toList.dropWhile isNameChar)).startsWith " --> " =
      false := by
    rw [← Bool.not_eq_true, String.startsWith_string_iff, ← List.isPrefixOf_iff_prefix]
    simp only [String.toList_ofList, String.toList_append]
    exact Bool.false_ne_true
  rw [hline, arrowEnds?, afterStart?_append, Option.bind_some, afterStart?, hstart]
  rfl

lemma blockName?_arrowLine (source target : String) (labels : List String) :
    blockName? (arrowLine source target labels) = none := by
  apply blockName?_of_mem
  simp only [arrowLine, String.toList_append, List.mem_append]
  have hpoint : '>' ∈ " --> ".toList := by decide
  exact Or.inl (Or.inl (Or.inl (Or.inr hpoint)))

section SanitizedName

variable (name : String) {rest : String} (h : rest.toList.takeWhile isNameChar = [])
include h

/-- A sanitized name is read back where no name character follows it. -/
lemma takeWhile_sanitizeName_append :
    (sanitizeName name ++ rest).toList.takeWhile isNameChar = (sanitizeName name).toList := by
  rw [String.toList_append, List.takeWhile_append_of_pos fun _ => isNameChar_of_mem_sanitizeName,
    h, List.append_nil]

lemma dropWhile_sanitizeName_append :
    (sanitizeName name ++ rest).toList.dropWhile isNameChar = rest.toList := by
  rw [String.toList_append, List.dropWhile_append_of_pos fun _ => isNameChar_of_mem_sanitizeName]
  have hrest := List.takeWhile_append_dropWhile (p := isNameChar) (l := rest.toList)
  rwa [h, List.nil_append] at hrest

end SanitizedName

lemma arrowEnds?_arrowLine (source target : String) (labels : List String) :
    arrowEnds? (arrowLine source target labels) =
      some (sanitizeName source, sanitizeName target) := by
  have hlabel (rest : String) : (" : " ++ rest).toList.takeWhile isNameChar = [] := by
    rw [String.toList_append]
    rfl
  have harrow (rest : String) : (" --> " ++ rest).toList.takeWhile isNameChar = [] := by
    rw [String.toList_append]
    rfl
  simp only [arrowLine, String.append_assoc]
  rw [arrowEnds?, afterStart?_append, Option.bind_some, dropWhile_sanitizeName_append _ (harrow _),
    String.ofList_toList, afterStart?_append, Option.map_some,
    takeWhile_sanitizeName_append _ (harrow _), takeWhile_sanitizeName_append _ (hlabel _),
    String.ofList_toList, String.ofList_toList]

/-! ### Reading the text -/

section Text

variable {p : ProjectData} {depth : Nat} {e : Endpoint}

def blockHead (c : ClassInfo) : String := "    class " ++ shownName c ++ " \x7b"

/-- A block has its first line, lines further inside, and a line that closes it. -/
lemma exists_classBlock_eq (p : ProjectData) (e : Endpoint) (ids : List ClassId)
    (members : List MemberInfo) (c : ClassInfo) :
    ∃ inside : List String, classBlock p e ids members c =
      blockHead c :: (inside.map ("        " ++ ·) ++ ["    \x7d"]) := by
  have hlabel (s : String) :
      "        <<\"" ++ s ++ "\">>" = "        " ++ ("<<\"" ++ s ++ "\">>") := by
    rw [← String.append_assoc, ← String.append_assoc]
    rfl
  have hinterface : "        <<interface>>" = "        " ++ "<<interface>>" := rfl
  rw [classBlock, hlabel, hinterface]
  refine ⟨(if c.id = e.classId then
      ["<<\"" ++ escapeLabel (e.uri ++ "(" ++ e.verb.name ++ ")") ++ "\">>"] else []) ++
    (if ImplementedIn p ids c.id then ["<<interface>>"] else []) ++
    (members.map MemberInfo.render).eraseDups, ?_⟩
  split_ifs <;> simp [blockHead, shownName]

/-- A reader that passes over the insides of blocks, their ends and the ends of the text reads the
first lines of the blocks and then the arrows. -/
lemma filterMap_pieces_text_build {α : Type} (read? : String → Option α)
    (hinside : ∀ s, read? ("        " ++ s) = none)
    (hends : ["classDiagram", "    \x7d", ""].filterMap read? = [])
    (he : ∃ c, p.registry.class? e.classId = some c) :
    (pieces '\n' (build p depth e).text).filterMap read? =
      (build p depth e).classes.filterMap (fun c => read? (blockHead c)) ++
        (build p depth e).classes.flatMap fun c =>
          (targets p depth e c).filterMap fun x =>
            read? (arrowLine c.simpleName x.1.simpleName x.2) := by
  simp only [List.filterMap_eq_nil_iff, List.forall_mem_cons, List.not_mem_nil, false_implies,
    implies_true, and_true] at hends
  obtain ⟨hfirst, hclose, hlast⟩ := hends
  have hblock (c : ClassInfo) :
      (classBlock p e (selected p depth e) (shownMembers p depth e c) c).filterMap read? =
        (read? (blockHead c)).toList := by
    obtain ⟨inside, hlines⟩ :=
      exists_classBlock_eq p e (selected p depth e) (shownMembers p depth e c) c
    rw [hlines, List.filterMap_cons]
    cases read? (blockHead c) <;> simp [hinside, hclose]
  have hheads : (build p depth e).classes.filterMap (fun c => read? (blockHead c)) =
      (build p depth e).classes.flatMap fun c => (read? (blockHead c)).toList :=
    List.filterMap_eq_flatMap_toList _ _
  rw [pieces_text_build he, lines, hheads]
  simp [hfirst, hlast, List.filterMap_flatMap, hblock]

/-- The blocks of a diagram are named like its classes. -/
lemma blockNames_build (he : ∃ c, p.registry.class? e.classId = some c) :
    blockNames (build p depth e).text = (build p depth e).classes.map shownName := by
  have hhead (c : ClassInfo) : blockName? (blockHead c) = some (shownName c) := blockName?_header _
  rw [blockNames, filterMap_pieces_text_build blockName? blockName?_indented (by decide +kernel) he]
  simp [hhead, blockName?_arrowLine]

/-- An arrow of a diagram leads from the name of a class to that of one of its targets. -/
lemma arrows_build (he : ∃ c, p.registry.class? e.classId = some c) :
    arrows (build p depth e).text = (build p depth e).classes.flatMap fun c =>
      (targets p depth e c).map fun x => (shownName c, sanitizeName x.1.simpleName) := by
  have hhead (c : ClassInfo) : arrowEnds? (blockHead c) = none := arrowEnds?_header _
  rw [arrows, filterMap_pieces_text_build arrowEnds? arrowEnds?_indented (by decide +kernel) he]
  simp [hhead, arrowEnds?_arrowLine, shownName]

/-- The selected classes are told apart by their ids. -/
lemma nodup_classes_build (he : ∃ c, p.registry.class? e.classId = some c) :
    (build p depth e).classes.Nodup := by
  apply List.Nodup.of_map (·.id)
  rw [map_id_classes_build he]
  exact nodup_selected p depth e

/-- An arrow leads from a class to another one to which an edge goes from it. -/
lemma exists_classes_of_mem_arrows (he : ∃ c, p.registry.class? e.classId = some c)
    {x : String × String} (hx : x ∈ arrows (build p depth e).text) :
    ∃ s ∈ (build p depth e).classes, ∃ t ∈ (build p depth e).classes,
      p.edgesBetween s.id t.id ≠ [] ∧ x = (shownName s, shownName t) := by
  rw [arrows_build he] at hx
  obtain ⟨s, hs, hx⟩ := List.mem_flatMap.mp hx
  obtain ⟨⟨r, labels⟩, htarget, rfl⟩ := List.mem_map.mp hx
  obtain ⟨t, ht, hr, hedges, -⟩ := (mem_targetsOf (lt_of_mem_classes_build hs)).mp htarget
  exact ⟨s, hs, ⟨t, r.fqn, r.simpleName⟩, mem_classes_build.mpr ⟨ht, r, hr, rfl, rfl⟩, hedges, rfl⟩

end Text

/-- The blocks of a diagram are named by the sanitized simple names of the selected classes, in
their order. The names are distinct exactly if no two of the selected classes have simple names that
are the same when sanitized. Then each arrow stands for one pair of selected classes only, with an
edge from one to the other. -/
theorem shownNames_distinct_iff (p : ProjectData) (depth : Nat) (e : Endpoint)
    (he : ∃ c, p.registry.class? e.classId = some c) :
    ∃ d, ofEndpoint p depth e = .ok d ∧ d.classes.map (·.id) = selected p depth e ∧
      blockNames d.text = d.classes.map (fun c => sanitizeName c.simpleName) ∧
      ((blockNames d.text).Nodup ↔ ∀ a ∈ d.classes, ∀ b ∈ d.classes,
        sanitizeName a.simpleName = sanitizeName b.simpleName → a = b) ∧
      ((blockNames d.text).Nodup → ∀ A B, (A, B) ∈ arrows d.text →
        ∃ s ∈ d.classes, ∃ t ∈ d.classes, p.edgesBetween s.id t.id ≠ [] ∧
          ∀ a ∈ d.classes, ∀ b ∈ d.classes,
            sanitizeName a.simpleName = A ∧ sanitizeName b.simpleName = B ↔ a = s ∧ b = t) := by
  have hnames : blockNames (build p depth e).text = (build p depth e).classes.map shownName :=
    blockNames_build he
  have hdistinct : (blockNames (build p depth e).text).Nodup ↔
      ∀ a ∈ (build p depth e).classes, ∀ b ∈ (build p depth e).classes,
        shownName a = shownName b → a = b := by
    rw [hnames]
    exact List.nodup_map_iff_inj_on (nodup_classes_build he)
  refine ⟨build p depth e, ofEndpoint_eq_ok he, map_id_classes_build he, hnames, hdistinct, ?_⟩
  intro hnodup A B harrow
  obtain ⟨s, hs, t, ht, hedges, hends⟩ := exists_classes_of_mem_arrows he harrow
  obtain ⟨rfl, rfl⟩ := Prod.mk.inj hends
  refine ⟨s, hs, t, ht, hedges, fun a ha b hb => ⟨?_, ?_⟩⟩
  · rintro ⟨hA, hB⟩
    exact ⟨hdistinct.mp hnodup a ha s hs hA, hdistinct.mp hnodup b hb t ht hB⟩
  · rintro ⟨rfl, rfl⟩
    exact ⟨rfl, rfl⟩

/-- Two classes of different names and the arrow between them. -/
theorem shownNames_distinct_bills :
    let e : Endpoint := ⟨.ofNat 2, 1, "/bill", .get⟩
    (∃ c, bills.registry.class? e.classId = some c) ∧
      ∃ d, ofEndpoint bills 1 e = .ok d ∧ blockNames d.text = ["Bill", "Ledger"] ∧
        (∀ a ∈ d.classes, ∀ b ∈ d.classes,
          sanitizeName a.simpleName = sanitizeName b.simpleName → a = b) ∧
        ("Bill", "Ledger") ∈ arrows d.text ∧
        ∃ s ∈ d.classes, ∃ t ∈ d.classes, bills.edgesBetween s.id t.id ≠ [] ∧
          ∀ a ∈ d.classes, ∀ b ∈ d.classes, sanitizeName a.simpleName = "Bill" ∧
            sanitizeName b.simpleName = "Ledger" ↔ a = s ∧ b = t := by
  intro e
  have he : ∃ c, bills.registry.class? e.classId = some c := ⟨_, rfl⟩
  refine ⟨he, ?_⟩
  obtain ⟨d, hd, -, -, hdistinct, hpairs⟩ := shownNames_distinct_iff bills 1 e he
  obtain rfl : build bills 1 e = d := Except.ok.inj hd
  have hnames : blockNames (build bills 1 e).text = ["Bill", "Ledger"] := by
    rw [blockNames_build he]
    decide +kernel
  have harrow : ("Bill", "Ledger") ∈ arrows (build bills 1 e).text := by
    rw [arrows_build he]
    decide +kernel
  have hnodup : (blockNames (build bills 1 e).text).Nodup := by
    rw [hnames]
    decide
  exact ⟨_, hd, hnames, hdistinct.mp hnodup, harrow, hpairs hnodup _ _ harrow⟩

/-- A class that uses two classes of the same simple name. -/
def namesakes : ProjectData where
  id := bills.id
  root := "/shop"
  registry := .ofRegistrations
    [.type "shop.web" "Orders" .classType none, .type "shop.api" "Order" .classType none,
      .type "shop.db" "Order" .classType none]
  members := []
  edges := [1, 2].map fun target => ⟨0, "", "", some target, .composition, .ofNat 1⟩
  endpoints := []
  batch := bills.batch

/-- Two classes of one diagram may be shown under one name, and then an arrow does not tell which of
them it leads to. -/
theorem not_shownNames_distinct_namesakes :
    let e : Endpoint := ⟨.ofNat 2, 0, "/orders", .get⟩
    namesakes.registry.Built ∧ (∃ c, namesakes.registry.class? e.classId = some c) ∧
      ∃ d, ofEndpoint namesakes 10 e = .ok d ∧ ¬(blockNames d.text).Nodup ∧
        ∃ s ∈ d.classes, ∃ t ∈ d.classes, ∃ t' ∈ d.classes, t ≠ t' ∧
          (sanitizeName s.simpleName, sanitizeName t.simpleName) ∈ arrows d.text ∧
          sanitizeName t.simpleName = sanitizeName t'.simpleName := by
  intro e
  have he : ∃ c, namesakes.registry.class? e.classId = some c := ⟨_, rfl⟩
  have hnames : ¬(blockNames (build namesakes 10 e).text).Nodup := by
    rw [blockNames_build he]
    decide +kernel
  have harrow : ("Orders", "Order") ∈ arrows (build namesakes 10 e).text := by
    rw [arrows_build he]
    decide +kernel
  refine ⟨⟨_, rfl⟩, he, build namesakes 10 e, ofEndpoint_eq_ok he, hnames,
    ⟨0, "shop.web.Orders", "Orders"⟩, by decide +kernel,
    ⟨1, "shop.api.Order", "Order"⟩, by decide +kernel,
    ⟨2, "shop.db.Order", "Order"⟩, by decide +kernel, by decide, harrow, rfl⟩

end Diagram

end Cartograph
