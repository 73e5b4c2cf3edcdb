import Cartograph.Proofs.Registry.Representation
import Cartograph.Proofs.Text.Above
import Mathlib.Logic.Relation

/-!
# The packages above a package

A package is linked to the registered package above it that has the longest name, whatever is
missing between the two. Following the links from a package leads upwards and ends, and it meets all
registered packages above the first one: of two names above a name the shorter lies above the
longer, so what a link passes over is not registered.
-/

namespace Cartograph

open Text Java

namespace Registry

variable {r : Registry} {id up other : PackageId} {above name : String} {fuel : Nat}

/-! ### The names above a name -/

lemma isAbove_of_mem_ancestors (h : above ∈ ancestors fuel name) : IsAbove above name := by
  induction fuel generalizing name with
  | zero => simp [ancestors] at h
  | succ fuel ih =>
    rw [ancestors] at h
    split_ifs at h with hdot
    · rcases List.mem_cons.mp h with rfl | hrest
      · exact isAbove_qualifier hdot
      · exact (ih hrest).trans (isAbove_qualifier hdot)
    · simp at h

lemma mem_ancestors_of_isAbove (hfuel : name.length ≤ fuel) (h : IsAbove above name) :
    above ∈ ancestors fuel name := by
  induction fuel generalizing name with
  | zero =>
    have hlt := h.length_lt
    omega
  | succ fuel ih =>
    rw [ancestors, if_pos h.dot_mem, List.mem_cons]
    rcases h.eq_or_isAbove_qualifier with heq | hqualifier
    · exact .inl heq
    · right
      have hlt := (isAbove_qualifier h.dot_mem).length_lt
      exact ih (by omega) hqualifier

lemma mem_ancestors_iff : above ∈ ancestors name.length name ↔ IsAbove above name :=
  ⟨isAbove_of_mem_ancestors, mem_ancestors_of_isAbove le_rfl⟩

/-- The names above a name come longest first. -/
lemma pairwise_ancestors (fuel : Nat) (name : String) :
    (ancestors fuel name).Pairwise fun a b => b.length < a.length := by
  induction fuel generalizing name with
  | zero => simp [ancestors]
  | succ fuel ih =>
    rw [ancestors]
    split_ifs
    · rw [List.pairwise_cons]
      refine ⟨?_, ih _⟩
      intro above habove
      exact (isAbove_of_mem_ancestors habove).length_lt
    · exact List.Pairwise.nil

/-! ### Packages above a package -/

/-- The name of the first package lies above that of the second. -/
def LiesAbove (r : Registry) (up id : PackageId) : Prop :=
  ∃ above name, r.package? up = some above ∧ r.package? id = some name ∧ IsAbove above name

/-- The first package has a longer name than the second. -/
def LongerNamed (r : Registry) (a b : PackageId) : Prop :=
  ∃ name other, r.package? a = some name ∧ r.package? b = some other ∧ other.length < name.length

lemma LongerNamed.not_longerNamed (h : r.LongerNamed id up) : ¬r.LongerNamed up id := by
  obtain ⟨name, above, hname, habove, hlt⟩ := h
  rintro ⟨above', name', habove', hname', hgt⟩
  rw [hname, Option.some.injEq] at hname'
  rw [habove, Option.some.injEq] at habove'
  subst hname' habove'
  omega

lemma LiesAbove.longerNamed (h : r.LiesAbove up id) : r.LongerNamed id up := by
  obtain ⟨above, name, habove, hname, his⟩ := h
  exact ⟨name, above, hname, habove, his.length_lt⟩

lemma LiesAbove.trans (h : r.LiesAbove other up) (h' : r.LiesAbove up id) :
    r.LiesAbove other id := by
  obtain ⟨top, above, htop, habove, his⟩ := h
  obtain ⟨above', name, habove', hname, his'⟩ := h'
  rw [habove, Option.some.injEq] at habove'
  subst habove'
  exact ⟨top, name, htop, hname, his.trans his'⟩

/-- Of two packages above a package, one with a shorter name lies above the other. -/
lemma LiesAbove.of_longerNamed (hother : r.LiesAbove other id) (hup : r.LiesAbove up id)
    (hlonger : r.LongerNamed up other) : r.LiesAbove other up := by
  obtain ⟨a, name, ha, hname, hisa⟩ := hother
  obtain ⟨b, name', hb, hname', hisb⟩ := hup
  obtain ⟨b', a', hb', ha', hlt⟩ := hlonger
  rw [hname, Option.some.injEq] at hname'
  rw [ha, Option.some.injEq] at ha'
  rw [hb, Option.some.injEq] at hb'
  subst hname' ha' hb'
  exact ⟨a, b, ha, hb, hisa.of_length_lt hisb hlt⟩

/-! ### Links -/

lemma parent?_eq_none_iff : r.parent? id = none ↔ ∀ up, ¬r.LiesAbove up id := by
  rw [parent?, Option.bind_eq_none_iff]
  simp only [List.findSome?_eq_none_iff, mem_ancestors_iff, packageNamed?_eq_none_iff]
  constructor
  · rintro h up ⟨above, name, habove, hname, his⟩
    exact h name hname above his (List.mem_of_getElem? habove)
  · intro h name hname above his hmem
    obtain ⟨up, hup⟩ := List.getElem?_of_mem hmem
    exact h up ⟨above, name, hup, hname, his⟩

/-- A link leads to a package above, and every other one above has a shorter name. -/
lemma liesAbove_of_parent? (hr : r.packages.Nodup) (h : r.parent? id = some up) :
    r.LiesAbove up id ∧ ∀ other, r.LiesAbove other id → other = up ∨ r.LongerNamed up other := by
  rw [parent?, Option.bind_eq_some_iff] at h
  obtain ⟨name, hname, hfind⟩ := h
  obtain ⟨longer, above, shorter, hsplit, habove, hlonger⟩ := List.findSome?_eq_some_iff.mp hfind
  have hup := package?_of_packageNamed? habove
  have hmem : above ∈ ancestors name.length name := by simp [hsplit]
  refine ⟨⟨above, name, hup, hname, mem_ancestors_iff.mp hmem⟩, ?_⟩
  rintro other ⟨above', name', hother, hname', his⟩
  rw [hname, Option.some.injEq] at hname'
  subst hname'
  have hmem' := mem_ancestors_iff.mpr his
  rw [hsplit, List.mem_append, List.mem_cons] at hmem'
  rcases hmem' with hmem' | rfl | hmem'
  · -- a longer name above would have been found first
    have hnone := packageNamed?_eq_none_iff.mp (hlonger above' hmem')
    exact absurd (List.mem_of_getElem? hother) hnone
  · left
    rw [← Option.some.injEq, ← habove, eq_comm]
    exact (packageNamed?_eq_some_iff hr).mpr hother
  · right
    have hpairwise := pairwise_ancestors name.length name
    rw [hsplit, List.pairwise_append, List.pairwise_cons] at hpairwise
    exact ⟨above, above', hup, hother, hpairwise.2.1.1 above' hmem'⟩

/-- The parent of a package is the registered package above it with the longest name. -/
lemma parent?_eq_some_iff (hr : r.packages.Nodup) :
    r.parent? id = some up ↔
      r.LiesAbove up id ∧
        ∀ other, r.LiesAbove other id → other = up ∨ r.LongerNamed up other := by
  constructor
  · exact liesAbove_of_parent? hr
  · rintro ⟨hup, hlongest⟩
    cases hparent : r.parent? id with
    | none => exact absurd hup (parent?_eq_none_iff.mp hparent up)
    | some found =>
      obtain ⟨hfound, hlongest'⟩ := liesAbove_of_parent? hr hparent
      rcases hlongest found hfound with rfl | hlonger
      · rfl
      · rcases hlongest' up hup with rfl | hlonger'
        · rfl
        · exact absurd hlonger' hlonger.not_longerNamed

/-- One step up leaves out no package but the one that it leads to. -/
lemma liesAbove_iff_of_parent? (hr : r.packages.Nodup) (h : r.parent? id = some up) :
    r.LiesAbove other id ↔ other = up ∨ r.LiesAbove other up := by
  obtain ⟨hup, hlongest⟩ := liesAbove_of_parent? hr h
  constructor
  · intro hother
    rcases hlongest other hother with rfl | hlonger
    · exact .inl rfl
    · exact .inr (hother.of_longerNamed hup hlonger)
  · rintro (rfl | hother)
    · exact hup
    · exact hother.trans hup

/-! ### Following the links -/

/-- Following the links from the package leads through the others in order, and there it ends. -/
inductive Climbs (r : Registry) : PackageId → List PackageId → Prop
  | top {id : PackageId} (h : r.parent? id = none) : Climbs r id []
  | step {id up : PackageId} {path : List PackageId} (h : r.parent? id = some up)
      (rest : Climbs r up path) : Climbs r id (up :: path)

variable {path path' : List PackageId}

lemma Climbs.unique (h : r.Climbs id path) (h' : r.Climbs id path') : path = path' := by
  induction h generalizing path' with
  | top hnone =>
    cases h' with
    | top => rfl
    | step hsome => simp [hnone] at hsome
  | step hsome _ ih =>
    cases h' with
    | top hnone => simp [hnone] at hsome
    | step hsome' rest' =>
      rw [hsome, Option.some.injEq] at hsome'
      subst hsome'
      rw [ih rest']

/-- Following the links ends. -/
lemma exists_climbs (hr : r.packages.Nodup) (id : PackageId) : ∃ path, r.Climbs id path := by
  -- each link leads to a shorter name
  have hbound : ∀ n id name, r.package? id = some name → name.length < n →
      ∃ path, r.Climbs id path := by
    intro n
    induction n with
    | zero => simp
    | succ n ih =>
      intro id name hname hlt
      cases hparent : r.parent? id with
      | none => exact ⟨[], .top hparent⟩
      | some up =>
        obtain ⟨above, name', habove, hname', his⟩ := (liesAbove_of_parent? hr hparent).1
        rw [hname, Option.some.injEq] at hname'
        subst hname'
        have hshorter := his.length_lt
        obtain ⟨path, hpath⟩ := ih up above habove (by omega)
        exact ⟨up :: path, .step hparent hpath⟩
  cases hname : r.package? id with
  | none => exact ⟨[], .top (by simp [parent?, hname])⟩
  | some name => exact hbound (name.length + 1) id name hname (by omega)

/-- All packages above are met, and no others. -/
lemma Climbs.mem_iff (h : r.Climbs id path) (hr : r.packages.Nodup) :
    up ∈ path ↔ r.LiesAbove up id := by
  induction h with
  | top hnone => simp [parent?_eq_none_iff.mp hnone]
  | step hsome _ ih => rw [List.mem_cons, ih, liesAbove_iff_of_parent? hr hsome]

/-- Longer names are met first. -/
lemma Climbs.pairwise (h : r.Climbs id path) (hr : r.packages.Nodup) :
    path.Pairwise r.LongerNamed := by
  induction h with
  | top => exact List.Pairwise.nil
  | step hsome rest ih =>
    rw [List.pairwise_cons]
    refine ⟨?_, ih⟩
    intro above habove
    exact ((rest.mem_iff hr).mp habove).longerNamed

/-- What links lead to lies above. -/
lemma liesAbove_of_transGen (hr : r.packages.Nodup)
    (h : Relation.TransGen (fun a b => r.parent? a = some b) id up) : r.LiesAbove up id := by
  induction h with
  | single hlink => exact (liesAbove_of_parent? hr hlink).1
  | tail _ hlink ih => exact (liesAbove_of_parent? hr hlink).1.trans ih

/-- In a registry after any calls, following the links from a package to its parent ends and meets
the registered packages above it, longest name first. A parent is the registered package above with
the longest name, no package is linked to itself over others, and every link leads to a package. -/
theorem climbs_packages_above (calls : List RegistryCall) :
    (∀ id name, (ofCalls calls).package? id = some name →
      ∃ path, (∀ visited, (ofCalls calls).Climbs id visited ↔ visited = path) ∧
        path.Pairwise (ofCalls calls).LongerNamed ∧
        ∀ up, up ∈ path ↔
          ∃ above, (ofCalls calls).package? up = some above ∧ IsAbove above name) ∧
    (∀ id up, (ofCalls calls).parent? id = some up ↔
      (ofCalls calls).LiesAbove up id ∧ ∀ other, (ofCalls calls).LiesAbove other id →
        other = up ∨ (ofCalls calls).LongerNamed up other) ∧
    (∀ id, ¬Relation.TransGen (fun a b => (ofCalls calls).parent? a = some b) id id) ∧
    ∀ id up, (ofCalls calls).parent? id = some up → up < (ofCalls calls).packages.length := by
  have hr : (ofCalls calls).packages.Nodup := by
    rw [ofCalls_eq_ofRegistrations]
    exact (records_ofRegistrations _).nodup_packages
  refine ⟨?_, ?_, ?_, ?_⟩
  · intro id name hname
    obtain ⟨path, hpath⟩ := exists_climbs hr id
    refine ⟨path, ?_, hpath.pairwise hr, ?_⟩
    · intro visited
      constructor
      · intro hvisited
        exact hvisited.unique hpath
      · rintro rfl
        exact hpath
    · intro up
      rw [hpath.mem_iff hr]
      simp [LiesAbove, hname]
  · intro id up
    exact parent?_eq_some_iff hr
  · intro id hcycle
    have hlonger := (liesAbove_of_transGen hr hcycle).longerNamed
    exact hlonger.not_longerNamed hlonger
  · intro id up hparent
    obtain ⟨above, _, habove, -⟩ := (liesAbove_of_parent? hr hparent).1
    exact (List.getElem?_eq_some_iff.mp habove).1

/-- A package that is missing in between is passed over, and a package may come before those above
it. -/
theorem climbs_packages_above_line :
    let calls : List RegistryCall :=
      [.package "com.shop.order.line", .package "com",
        .register "com.shop.order" "Order" .classType none, .package "com.shopping"]
    (ofCalls calls).package? 0 = some "com.shop.order.line" ∧
      (ofCalls calls).Climbs 0 [2, 1] ∧ [2, 1].Pairwise (ofCalls calls).LongerNamed ∧
      ∀ up, up ∈ [2, 1] ↔ ∃ above, (ofCalls calls).package? up = some above ∧
        IsAbove above "com.shop.order.line" := by
  intro calls
  have hlinks : (ofCalls calls).package? 0 = some "com.shop.order.line" ∧
      (ofCalls calls).parent? 0 = some 2 ∧ (ofCalls calls).parent? 2 = some 1 ∧
      (ofCalls calls).parent? 1 = none := by
    decide +kernel
  obtain ⟨hname, hline, horder, hcom⟩ := hlinks
  have hclimbs : (ofCalls calls).Climbs 0 [2, 1] := .step hline (.step horder (.top hcom))
  obtain ⟨path, hpath, hpairwise, hmem⟩ := (climbs_packages_above calls).1 0 _ hname
  rw [← (hpath [2, 1]).mp hclimbs] at hpairwise hmem
  exact ⟨hname, hclimbs, hpairwise, hmem⟩

end Registry

end Cartograph
