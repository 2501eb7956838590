import Mathlib.Data.Nat.Find
import PageRoutes.Proofs.FileTree.Refilled

/-! A link that has come to stand under another name.

Within its directory a link leads from every name to the same place, unless it led through the place
that it has come to stand in: then it leads through itself. Files may come or go at the same time.
-/

set_option autoImplicit false

namespace PageRoutes.FileTree

theorem Leads.exists_fewest {tree : FileTree} {directory : Location} {name : Name} {goal : Target}
    {links : Nat} (leads : Leads tree true links directory [name] goal) :
    ∃ fewest, fewest ≤ links ∧ Leads tree true fewest directory [name] goal ∧
      ∀ fewer, fewer < fewest → ∀ other, ¬ Leads tree true fewer directory [name] other := by
  classical
  have some : ∃ links, Leads tree true links directory [name] goal := ⟨links, leads⟩
  refine ⟨Nat.find some, Nat.find_min' some leads, Nat.find_spec some, fun fewer less other way => ?_⟩
  exact Nat.find_min some less (way.unique leads ▸ way)

/-- A link that has come from one name in a directory to stand under another one there. Files may
have come or gone elsewhere. -/
structure Relinked (before after : FileTree) (directory : Location) (old new : Name)
    (target : LinkTarget) : Prop where
  stood : before.get? (directory ++ [old]) = some (.link target)
  stands : after.get? (directory ++ [new]) = some (.link target)
  free : before.get? (directory ++ [new]) = none
  gone : after.get? (directory ++ [old]) = none
  others : ∀ place last, place ++ [last] ≠ directory ++ [old] → place ++ [last] ≠ directory ++ [new] →
    (last ≠ Name.up ∧ before.IsPlain (place ++ [last]) ∧ after.IsPlain (place ++ [last])) ∨
      after.get? (place ++ [last]) = before.get? (place ++ [last])

namespace Relinked

variable {before after : FileTree} {start directory location : Location} {old new : Name}
  {target : LinkTarget} {parent : Path} {goal : Target} {links : Nat}

theorem symm (relinked : Relinked before after directory old new target) :
    Relinked after before directory new old target where
  stood := relinked.stands
  stands := relinked.stood
  free := relinked.gone
  gone := relinked.free
  others := by
    intro place last other another
    exact (relinked.others place last another other).imp
      (fun ⟨down, one, two⟩ => ⟨down, two, one⟩) Eq.symm

variable (relinked : Relinked before after directory old new target)

include relinked

theorem at_other (other : location ≠ directory ++ [old]) (another : location ≠ directory ++ [new]) :
    before.IsPlain location ∧ after.IsPlain location ∨
      after.get? location = before.get? location := by
  rcases List.eq_nil_or_concat location with rfl | ⟨front, last, rfl⟩
  · exact .inr rfl
  · rw [List.concat_eq_append] at *
    exact (relinked.others front last other another).imp_left And.right

theorem directories (stands : before.get? location = some .directory) :
    after.get? location = some .directory := by
  have other : location ≠ directory ++ [old] := by
    rintro rfl
    rw [relinked.stood] at stands
    cases stands
  have another : location ≠ directory ++ [new] := by
    rintro rfl
    rw [relinked.free] at stands
    cases stands
  rcases relinked.at_other other another with ⟨plain, _⟩ | same
  · exact absurd stands plain.ne_directory
  · exact same.trans stands

theorem plain (apart : location ≠ directory ++ [new]) (plain : before.IsPlain location) :
    after.IsPlain location := by
  by_cases here : location = directory ++ [old]
  · exact .inl (here ▸ relinked.gone)
  · rcases relinked.at_other here apart with ⟨_, still⟩ | same
    · exact still
    · rwa [IsPlain, same]

theorem link {other : LinkTarget} (elsewhere : location ≠ directory ++ [old])
    (linked : before.get? location = some (.link other)) :
    after.get? location = some (.link other) := by
  have another : location ≠ directory ++ [new] := by
    rintro rfl
    rw [relinked.free] at linked
    cases linked
  rcases relinked.at_other elsewhere another with ⟨none | ⟨content, file⟩, _⟩ | same
  · rw [none] at linked
    cases linked
  · rw [file] at linked
    cases linked
  · exact same.trans linked

theorem blind (down : new ≠ Name.up) (led : before.IsBlind directory old) (place : Location)
    (last : Name) : before.IsBlind place last ∨
      after.get? (place ++ [last]) = before.get? (place ++ [last]) := by
  by_cases there : place ++ [last] = directory ++ [new]
  · obtain ⟨rfl, same⟩ := List.append_inj' there rfl
    cases same
    exact .inl (isBlind_of_isPlain down (.inl relinked.free))
  · by_cases here : place ++ [last] = directory ++ [old]
    · obtain ⟨rfl, same⟩ := List.append_inj' here rfl
      cases same
      exact .inl led
    · rcases relinked.others place last here there with ⟨notUp, plain, _⟩ | same
      · exact .inl (isBlind_of_isPlain notUp plain)
      · exact .inr same

theorem isBlind (leads : Leads before true links directory [old] goal)
    (plain : before.IsPlain goal.location) : before.IsBlind directory old := by
  refine ⟨?_, fun _ stands way => ?_⟩
  · rw [relinked.stood]
    exact nofun
  · cases leads.unique way
    exact plain.ne_directory stands

variable (grounded : Grounded before) (upwards : old ≠ Name.up)

include grounded upwards

/-- The link leads from its new name to where it led from its old one. -/
theorem leads (standing : before.get? directory = some .directory) (down : new ≠ Name.up)
    (fits : new.text.utf8ByteSize ≤ longestName) {fewest : Nat}
    (leads : Leads before true fewest directory [old] goal)
    (least : ∀ fewer, fewer < fewest → ∀ other, ¬ Leads before true fewer directory [old] other)
    (apart : goal.location ≠ directory ++ [new]) :
    ∃ reached : Target, reached.location = goal.location ∧
      Leads after true fewest directory [new] reached := by
  have linked := relinked.stood
  cases leads with
  | up _ => exact absurd rfl upwards
  | free _ _ none =>
    rw [none] at linked
    cases linked
  | down _ _ passed _ =>
    rw [passed] at linked
    cases linked
  | file _ _ ends =>
    rw [ends] at linked
    cases linked
  | link _ _ _ kept => cases kept
  | @through links _ _ _ _ _ _ _ passed _ only below =>
    rw [passed] at linked
    cases linked
    have onwards : ∀ {place last other}, before.get? (place ++ [last]) = some (.link other) →
        after.get? (place ++ [last]) = some (.link other) ∨
          ∀ goal, ¬ Leads before true links place [last] goal := by
      intro place last other stands
      by_cases here : place ++ [last] = directory ++ [old]
      · -- A link that led on through itself would have got there with fewer links.
        obtain ⟨rfl, same⟩ := List.append_inj' here rfl
        cases same
        exact .inr (least links (Nat.lt_succ_self links))
      · exact .inl (relinked.link here stands)
    obtain ⟨reached, place, way, -⟩ := below.rerouted grounded (get?_origin standing)
      relinked.directories onwards (relinked.plain apart)
    exact ⟨reached, place, .through down fits relinked.stands (fun _ => rfl) (fun asked none =>
      onlyDirectory_of_directories relinked.directories place way (only asked none)) way⟩

theorem isBlind_of_new (standing : before.get? directory = some .directory) (down : new ≠ Name.up)
    (fits : new.text.utf8ByteSize ≤ longestName)
    (nowhere : ∀ {links location}, after.get? location = some .directory →
      ¬ Leads after true links directory [new] (.found location)) :
    before.IsBlind directory old := by
  refine ⟨by rw [relinked.stood]; exact nofun, fun {links final} _ stands way => ?_⟩
  obtain ⟨fewest, _, fewestWay, least⟩ := way.exists_fewest
  have apart : final ≠ directory ++ [new] := by
    rintro rfl
    cases relinked.free.symm.trans stands
  obtain ⟨other, place, onwards⟩ :=
    relinked.leads grounded upwards standing down fits fewestWay least apart
  have still := relinked.directories stands
  cases onwards.eq_found place still
  exact nowhere still onwards

theorem located (home : before.get? start = some .directory) (admits : Admits parent new)
    (reached : before.directoryAt? start parent = some directory)
    (led : before.IsBlind directory old)
    (located : before.locate start true (parent.child old) = .ok goal)
    (apart : goal.location ≠ directory ++ [new]) :
    ∃ other : Target, other.location = goal.location ∧
      after.locate start true (parent.child new) = .ok other := by
  obtain ⟨_, _, leads⟩ := locate_eq_ok_iff.1 located
  obtain ⟨front, standing⟩ := directoryAt?_eq_some_iff.1 reached
  have origin : before.get? (if parent.IsAbsolute then [] else start) = some .directory :=
    get?_origin home
  obtain ⟨middle, used, left, all, way, _, last⟩ := leads.cut grounded origin
  cases (locate_eq_ok_iff.1 front).2.2.unique way
  obtain ⟨fewest, few, fewestLeads, least⟩ := last.exists_fewest
  obtain ⟨other, place, onwards⟩ := relinked.leads grounded upwards standing admits.down admits.fits
    fewestLeads least apart
  -- In front of the link the way is the old one, and behind it no more links are followed than before.
  have back := way.keeps_of_blind grounded (relinked.blind admits.down led) (by omega) origin standing
  have whole := Leads.join (relinked.directories standing) (List.cons_ne_nil _ _) onwards back
  exact ⟨other, place, locate_eq_ok_iff.2 ⟨admits.clean, admits.short, whole.more_links (by omega)⟩⟩

end Relinked

end PageRoutes.FileTree
