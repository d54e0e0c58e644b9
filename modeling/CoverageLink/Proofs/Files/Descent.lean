import CoverageLink.Proofs.Files.Change
import CoverageLink.Proofs.Text.Line

/-!
# Going down from a folder

A path that goes on with names leads down from the folder that its beginning leads to.  This is
what keeps whoever stores things under a folder inside of it, and there are two ways in which it
could fail: the beginning of a path may be read differently once more follows, and a name on the
way may be a link.

## 1.  Paths that go on

Steps are followed one after the other, so where a path leads is decided in two parts: a walk to a
folder (`Walks`), and what follows from there (`Leads.exists_walks`).  The parts of the *text* are
another matter, because the path of the top folder is recognized in a text at its beginning only as
a whole (`route_append`): a path that stops above the top folder leaves the volume, and the same
path with more names may come back into it.

## 2.  Only names, and no links

Where names are followed from a folder, and none on the way stands for a link, the lookup comes to
the place at these names, unless a link is followed there (`Leads.location_of_names`,
`location_of_straight`).  If nothing below the folder is a link that is always the place
(`location_of_place`).

## 3.  Paths of any spelling

What a person writes down for a folder may end in a slash, in a dot or in two, and then its last
piece is no name.  It is enough that the volume is not left on the way (`Covers`): then names that
come behind such a path lead down from the folder as well (`Covers.location_of_place`).

## 4.  Behind the path of the top folder

There names are asked for from the top on (`place_descend_iff`), and what lies in the volume and is
no link is found under its names (`place_of_at?`).
-/

namespace CoverageLink

namespace Text

theorem join_append_singleton (separator : Char) {texts : List String} (some_text : texts ≠ [])
    (last : String) :
    join separator (texts ++ [last]) = (join separator texts).push separator ++ last := by
  obtain ⟨first, rest, rfl⟩ := List.exists_cons_of_ne_nil some_text
  rw [List.cons_append, join, join, List.foldl_append]
  rfl

end Text

namespace Files

/-- A piece that asks for the entry of its own name. -/
theorem Step.ofSegment_eq_name_iff {segment : String} :
    Step.ofSegment segment = .name segment ↔ segment ≠ "" ∧ segment ≠ "." ∧ segment ≠ ".." := by
  unfold Step.ofSegment Step.isIdle
  by_cases empty : segment = ""
  · simp [empty]
  by_cases dot : segment = "."
  · simp [dot]
  by_cases dots : segment = ".."
  · simp [dots]
  · simp [empty, dot, dots]

namespace Path

/-- A path whose last piece is a name. -/
def EndsInName (path : Path) : Prop :=
  ∃ above name, path.segments = above ++ [name] ∧ Step.ofSegment name = .name name

theorem stepsOf_append (first more : List String) :
    stepsOf (first ++ more) = stepsOf first ++ stepsOf more := by
  rw [stepsOf, stepsOf, stepsOf, List.filter_append, List.map_append]

theorem mem_stepsOf {segments : List String} {name : String} (member : name ∈ segments)
    (proper : Step.ofSegment name = .name name) : Step.name name ∈ stepsOf segments := by
  have full := (Step.ofSegment_eq_name_iff.1 proper).1
  exact List.mem_map.2 ⟨name, List.mem_filter.2 ⟨member, by simpa using full⟩, proper⟩

/-- Names ask for the entries of their names. -/
theorem stepsOf_of_names {names : List String}
    (proper : ∀ name ∈ names, Step.ofSegment name = .name name) :
    stepsOf names = names.map .name := by
  induction names with
  | nil => rfl
  | cons name names ih =>
    have full : (!name.isEmpty) = true := by
      simpa using (Step.ofSegment_eq_name_iff.1 (proper name List.mem_cons_self)).1
    have rest := ih fun other member => proper other (List.mem_cons_of_mem name member)
    rw [stepsOf] at rest ⊢
    rw [List.filter_cons, if_pos full, List.map_cons, List.map_cons, rest,
      proper name List.mem_cons_self]

theorem isAbsolute_eq_false {first : String} (full : first ≠ "") {rest : List String} :
    isAbsolute ⟨first :: rest⟩ = false := by
  unfold isAbsolute
  split
  · rename_i same
    exact absurd (List.cons.inj same).1 full
  · rfl

theorem isAbsolute_singleton (segment : String) : isAbsolute ⟨[segment]⟩ = false := by
  unfold isAbsolute
  split
  · rename_i same
    cases same
  · rfl

/-- A path from the top of the host's files has a second piece. -/
theorem exists_second {path : Path} (absolute : path.isAbsolute = true) :
    ∃ second rest, path.segments = "" :: second :: rest := by
  unfold isAbsolute at absolute
  split at absolute
  · exact ⟨_, _, ‹_›⟩
  · cases absolute

/-- Any other path begins with a piece that is not empty, if it has a text. -/
theorem exists_first {segments : List String} (some_text : (text ⟨segments⟩).isEmpty = false)
    (relative : isAbsolute ⟨segments⟩ = false) :
    ∃ first rest, segments = first :: rest ∧ first ≠ "" := by
  match segments with
  | [] => cases some_text
  | [first] => exact ⟨first, [], rfl, by simpa [text] using some_text⟩
  | first :: second :: rest =>
    refine ⟨first, _, rfl, ?_⟩
    rintro rfl
    cases relative

namespace EndsInName

variable {path : Path}

theorem trunk_eq (ends : path.EndsInName) : path.trunk = path.segments := by
  obtain ⟨above, name, segments, proper⟩ := ends
  have full := (Step.ofSegment_eq_name_iff.1 proper).1
  rw [trunk, closed, segments]
  simp [full]

theorem descend_eq (ends : path.EndsInName) (names : List String) :
    path.descend names = ⟨path.segments ++ names⟩ := by
  cases names with
  | nil => rw [descend, List.append_nil]
  | cons name names =>
    rw [descend, ends.trunk_eq]
    exact List.cons_ne_nil name names

theorem child_eq (ends : path.EndsInName) (name : String) :
    path.child name = ⟨path.segments ++ [name]⟩ := by
  rw [child, ends.trunk_eq]

/-- The last name is asked for by whatever ends the path. -/
theorem exists_name (ends : path.EndsInName) {front rest : List String}
    (segments : path.segments = front ++ rest) (some_rest : rest ≠ []) :
    ∃ name, Step.name name ∈ stepsOf rest := by
  obtain ⟨above, name, whole, proper⟩ := ends
  have last : rest.getLast? = some name := by
    have same := congrArg List.getLast? (segments.symm.trans whole)
    rw [List.getLast?_append, List.getLast?_eq_some_getLast some_rest, Option.some_or,
      List.getLast?_concat] at same
    rw [List.getLast?_eq_some_getLast some_rest, same]
  exact ⟨name, mem_stepsOf (List.mem_of_getLast? last) proper⟩

theorem segments_ne_nil (ends : path.EndsInName) : path.segments ≠ [] := by
  obtain ⟨above, name, segments, -⟩ := ends
  simp [segments]

theorem text_isEmpty (ends : path.EndsInName) : path.text.isEmpty = false := by
  obtain ⟨above, name, segments, proper⟩ := ends
  have full := (Step.ofSegment_eq_name_iff.1 proper).1
  rw [text, segments]
  by_cases alone : above = []
  · simpa [alone] using full
  · rw [Text.join_append_singleton separator alone]
    simp

end EndsInName

theorem endsInName_child (path : Path) {name : String}
    (proper : Step.ofSegment name = .name name) : (path.child name).EndsInName :=
  ⟨path.trunk, name, rfl, proper⟩

/-- Whatever a path has behind its trunk asks for nothing. -/
theorem exists_behind_trunk (path : Path) :
    ∃ behind, path.segments = path.trunk ++ behind ∧ stepsOf behind = [] ∧
      ∀ name ∈ behind, name = "" := by
  rw [trunk]
  split
  · rename_i shut
    have last : path.segments.getLast? = some "" := by simpa [closed] using shut
    obtain ⟨front, whole⟩ := List.getLast?_eq_some_iff.1 last
    exact ⟨[""], by rw [whole, List.dropLast_concat], rfl, by simp⟩
  · exact ⟨[], (List.append_nil _).symm, rfl, by simp⟩

theorem descend_eq_trunk (path : Path) {names : List String} (some_names : names ≠ []) :
    path.descend names = ⟨path.trunk ++ names⟩ := by
  obtain ⟨first, rest, rfl⟩ := List.exists_cons_of_ne_nil some_names
  rfl

theorem endsInName_descend (path : Path) {names : List String} (some_names : names ≠ [])
    (proper : ∀ name ∈ names, Step.ofSegment name = .name name) :
    (path.descend names).EndsInName := by
  obtain ⟨front, last, rfl⟩ := List.eq_nil_or_concat names |>.resolve_left some_names
  rw [path.descend_eq_trunk some_names]
  exact ⟨path.trunk ++ front, last, by simp, proper last (by simp)⟩

/-- A path whose first piece has a text has one. -/
theorem text_isEmpty_of_first {first : String} (full : first ≠ "") (rest : List String) :
    (text ⟨first :: rest⟩).isEmpty = false := by
  rcases List.eq_nil_or_concat rest with rfl | ⟨front, last, rfl⟩
  · simpa [text] using full
  · rw [text, List.concat_eq_append, ← List.cons_append,
      Text.join_append_singleton _ (List.cons_ne_nil _ _)]
    simp

end Path

/-- Where a place is. -/
def Place.location : Place → Location
  | .found location _ => location
  | .vacant location _ => location

namespace Volume

variable {volume : Volume} {aim : Aim} {links : Nat} {trail : List String} {closed : Bool}

/-! ## 1.  Paths that go on -/

/-- Steps lead from a folder to a folder, both given by the names that lead there, inside the volume
and without a last name.  Of the links that may be followed some are left. -/
inductive Walks (volume : Volume) :
    (links : Nat) → (trail : List String) → List Step → (left : Nat) → (goal : List String) → Prop
  | here {links : Nat} {trail : List String} : Walks volume links trail [] links trail
  | stay {links left : Nat} {trail goal : List String} {rest : List Step}
      (further : Walks volume links trail rest left goal) :
      Walks volume links trail (.stay :: rest) left goal
  | up {links left : Nat} {last : String} {trail goal : List String} {rest : List Step}
      (further : Walks volume links trail rest left goal) :
      Walks volume links (last :: trail) (.up :: rest) left goal
  | folder {links left : Nat} {trail goal : List String} {name : String} {rest : List Step}
      (short : name.utf8ByteSize ≤ maxName)
      (there : volume.at? (trail.reverse ++ [name]) = some .folder)
      (further : Walks volume links (name :: trail) rest left goal) :
      Walks volume links trail (.name name :: rest) left goal
  | through {links left : Nat} {trail goal : List String} {name : String} {rest : List Step}
      {target : Path} (short : name.utf8ByteSize ≤ maxName)
      (there : volume.at? (trail.reverse ++ [name]) = some (.link target))
      (further : Walks volume links (volume.origin trail target) (volume.route target ++ rest) left
        goal) :
      Walks volume (links + 1) trail (.name name :: rest) left goal

namespace Walks

variable {left : Nat} {goal : List String} {steps more : List Step}

/-- What leads to a folder, and no further, leads there with any aim. -/
theorem leads (walks : volume.Walks links trail steps left goal) (closed : Bool) :
    volume.Leads .target links trail steps closed (.found goal.reverse .folder) := by
  induction walks generalizing closed with
  | here => exact .here
  | stay _ ih => exact .stay (ih closed)
  | up _ ih => exact .up (ih closed)
  | folder short there _ ih => exact .folder ⟨by simp, short⟩ there (ih closed)
  | through short there _ ih => exact .through ⟨by simp, short⟩ there (fun _ => rfl) (ih _)

/-- From the folder one can go on. -/
theorem append (walks : volume.Walks links trail steps left goal) (some_more : more ≠ [])
    {place : Place} (led : volume.Leads aim left goal more closed place) :
    volume.Leads aim links trail (steps ++ more) closed place := by
  induction walks with
  | here => exact led
  | stay _ ih => exact .stay (ih led)
  | up _ ih => exact .up (ih led)
  | @folder _ _ _ _ _ rest short there _ ih =>
    have further : (rest ++ more).isEmpty = false := by simp [some_more]
    rw [List.cons_append]
    exact .folder ⟨by rw [further]; rfl, short⟩ there (ih led)
  | @through _ _ _ _ _ rest target short there _ ih =>
    have further : (rest ++ more).isEmpty = false := by simp [some_more]
    rw [List.cons_append]
    refine .through ⟨by rw [further]; rfl, short⟩ there (fun last => ?_) ?_
    · rw [last] at further
      cases further
    · rw [further, Bool.false_and, Bool.or_false, ← List.append_assoc]
      exact ih led

/-- Steps lead to one folder only. -/
theorem unique {left' : Nat} {goal' : List String}
    (walks : volume.Walks links trail steps left goal)
    (walks' : volume.Walks links trail steps left' goal') : goal = goal' := by
  have same := (follow_eq_ok_iff.2 (walks.leads false)).symm.trans
    (follow_eq_ok_iff.2 (walks'.leads false))
  exact List.reverse_inj.1 (Place.found.inj (Except.ok.inj same)).1

end Walks

/-- **Steps are followed one after the other.**  If names come behind some steps, the steps lead to
a folder, and the names are followed from there. -/
theorem Leads.exists_walks {steps more : List Step} {place : Place}
    (named : ∃ name, Step.name name ∈ more)
    (led : volume.Leads aim links trail (steps ++ more) closed place) :
    ∃ left goal, volume.Walks links trail steps left goal ∧
      volume.Leads aim left goal more closed place := by
  have further {rest : List Step} : rest ++ more ≠ [] := by
    obtain ⟨name, member⟩ := named
    have some_more := List.ne_nil_of_mem member
    simp [some_more]
  generalize whole : steps ++ more = all at led
  induction led generalizing steps with
  | here => exact absurd whole further
  | @stay links trail rest closed place onward ih =>
    cases steps with
    | nil => exact ⟨links, trail, .here, by simpa [← whole] using onward.stay⟩
    | cons step steps =>
      obtain ⟨rfl, rfl⟩ := List.cons.inj whole
      obtain ⟨left, goal, before, behind⟩ := ih rfl
      exact ⟨left, goal, before.stay, behind⟩
  | @outside links rest closed nameless =>
    cases steps with
    | nil =>
      have led : volume.Leads aim links [] (.up :: rest) closed (.found [] .folder) :=
        .outside nameless
      exact ⟨links, [], .here, by simpa [← whole] using led⟩
    | cons step steps =>
      obtain ⟨rfl, rfl⟩ := List.cons.inj whole
      obtain ⟨name, member⟩ := named
      have idle := List.all_eq_true.1 nameless (.name name) (List.mem_append_right _ member)
      cases idle
  | @up links last trail rest closed place onward ih =>
    cases steps with
    | nil => exact ⟨links, last :: trail, .here, by simpa [← whole] using onward.up⟩
    | cons step steps =>
      obtain ⟨rfl, rfl⟩ := List.cons.inj whole
      obtain ⟨left, goal, before, behind⟩ := ih rfl
      exact ⟨left, goal, before.up, behind⟩
  | @free links trail name closed passes none =>
    cases steps with
    | nil => exact ⟨links, trail, .here, by simpa [← whole] using Leads.free passes none⟩
    | cons step steps => exact absurd (List.cons.inj whole).2 further
  | @folder links trail name rest closed place passes there onward ih =>
    cases steps with
    | nil => exact ⟨links, trail, .here, by simpa [← whole] using Leads.folder passes there onward⟩
    | cons step steps =>
      obtain ⟨rfl, rfl⟩ := List.cons.inj whole
      obtain ⟨left, goal, before, behind⟩ := ih rfl
      exact ⟨left, goal, .folder passes.short there before, behind⟩
  | @file links trail name closed number contents passes there fits =>
    cases steps with
    | nil => exact ⟨links, trail, .here, by simpa [← whole] using Leads.file passes there fits⟩
    | cons step steps => exact absurd (List.cons.inj whole).2 further
  | @link links trail name closed target passes there kept =>
    cases steps with
    | nil => exact ⟨links, trail, .here, by simpa [← whole] using Leads.link passes there kept⟩
    | cons step steps => exact absurd (List.cons.inj whole).2 further
  | @through links trail name rest closed target place passes there followed onward ih =>
    cases steps with
    | nil =>
      exact ⟨_, trail, .here, by simpa [← whole] using Leads.through passes there followed onward⟩
    | cons step steps =>
      obtain ⟨rfl, rfl⟩ := List.cons.inj whole
      have same : (steps.append more).isEmpty = false := List.isEmpty_eq_false_iff.2 further
      rw [same, Bool.false_and, Bool.or_false] at ih
      obtain ⟨left, goal, before, behind⟩ := ih (List.append_assoc _ _ _)
      exact ⟨left, goal, .through passes.short there before, behind⟩

/-- The folder that the steps lead to, as a place. -/
theorem Leads.split {steps more : List Step} {place : Place}
    (named : ∃ name, Step.name name ∈ more)
    (led : volume.Leads aim links trail (steps ++ more) closed place) (shut : Bool) :
    ∃ location left, volume.Leads .target links trail steps shut (.found location .folder) ∧
      volume.Leads aim left location.reverse more closed place := by
  obtain ⟨left, goal, walks, behind⟩ := led.exists_walks named
  exact ⟨goal.reverse, left, walks.leads shut, by rwa [List.reverse_reverse]⟩

/-- **The beginning of a path is read as it is read alone**, unless it leads away from the top
folder. -/
theorem route_append
    (placed : volume.home.isAbsolute = true ∨ volume.home.segments.length ≤ 1) {above : Path}
    (some_text : above.text.isEmpty = false) (more : List String) :
    volume.route ⟨above.segments ++ more⟩ = volume.route above ++ Path.stepsOf more ∨
      above.isAbsolute = true ∧ volume.home.segments.isPrefixOf above.segments = false := by
  obtain ⟨segments⟩ := above
  cases within : volume.home.segments.isPrefixOf segments with
  | true =>
    have front := List.isPrefixOf_iff_prefix.1 within
    have whole : volume.home.segments.isPrefixOf (segments ++ more) = true :=
      List.isPrefixOf_iff_prefix.2 (front.trans (List.prefix_append _ _))
    left
    simp only [route, whole, within, if_true]
    rw [List.drop_append_of_le_length front.length_le, Path.stepsOf_append]
  | false =>
    by_cases absolute : Path.isAbsolute ⟨segments⟩ = true
    · exact .inr ⟨absolute, rfl⟩
    obtain ⟨first, front, rfl, full⟩ := Path.exists_first some_text (Bool.eq_false_iff.2 absolute)
    -- the first piece alone tells the path of the top folder from this one
    have apart : volume.home.segments.isPrefixOf (first :: front ++ more) = false := by
      rcases placed with away | few
      · obtain ⟨second, rest, home⟩ := Path.exists_second away
        rw [home, List.cons_append, List.isPrefixOf_cons_cons, beq_false_of_ne (Ne.symm full),
          Bool.false_and]
      · rcases home : volume.home.segments with _ | ⟨only, _ | ⟨second, others⟩⟩
        · rw [home] at within
          cases within
        · rw [home, List.isPrefixOf_cons_cons] at within
          rwa [List.cons_append, List.isPrefixOf_cons_cons]
        · simp [home] at few
    have read {rest : List String}
        (apart : volume.home.segments.isPrefixOf (first :: rest) = false) :
        volume.route ⟨first :: rest⟩ = Path.stepsOf (first :: rest) := by
      rw [route, apart, Path.isAbsolute_eq_false full]
      rfl
    left
    rw [read within, ← Path.stepsOf_append]
    exact read apart

/-- A path that leads away from the top folder, and leads somewhere, has no names. -/
theorem Leads.outside_of {place : Place} {path : Path} (absolute : path.isAbsolute = true)
    (away : volume.home.segments.isPrefixOf path.segments = false)
    (led : volume.Leads aim links [] (volume.route path) closed place) :
    place = .found [] .folder ∧ ∀ name, Step.name name ∉ path.steps := by
  have up : volume.route path = .up :: path.steps := by
    rw [route, away, absolute]
    rfl
  rw [up] at led
  cases led with
  | outside nameless =>
    refine ⟨rfl, fun name member => ?_⟩
    cases List.all_eq_true.1 nameless (.name name) member

/-- **Where a path leads, its beginning leads to a folder**, from which the rest is followed. -/
theorem exists_leads_of_place
    (placed : volume.home.isAbsolute = true ∨ volume.home.segments.length ≤ 1) {above : Path}
    {more : List String} {place : Place} (followable : Followable above)
    (named : ∃ name, Step.name name ∈ Path.stepsOf more)
    (led : volume.place aim ⟨above.segments ++ more⟩ = .ok place) :
    (∃ top left, volume.folderAt above = .ok top ∧
      volume.Leads aim left top.reverse (Path.stepsOf more)
        (Path.closed ⟨above.segments ++ more⟩) place) ∨
      above.isAbsolute = true ∧ volume.home.segments.isPrefixOf above.segments = false := by
  refine (route_append placed followable.some_text more).imp_left fun read => ?_
  obtain ⟨-, led⟩ := place_eq_ok_iff.1 led
  rw [read] at led
  obtain ⟨top, left, before, behind⟩ := led.split named above.closed
  refine ⟨top, left, ?_, behind⟩
  rw [folderAt_eq_ok_iff, entryAt_eq_ok_iff, place_eq_ok_iff]
  exact ⟨followable, before⟩

/-- The beginning of a path is no longer than the path. -/
theorem Followable.of_child {base : Path} {name : String} (ends : base.EndsInName)
    (followable : Followable (base.child name)) : Followable base := by
  have longer : (base.child name).text = base.text.push Path.separator ++ name := by
    rw [ends.child_eq, Path.text, Text.join_append_singleton _ ends.segments_ne_nil]
    rfl
  obtain ⟨no_nul, -, short⟩ := followable
  rw [longer] at no_nul short
  refine ⟨Bool.eq_false_iff.2 fun nul => ?_, ends.text_isEmpty, ?_⟩
  · refine absurd (List.contains_iff_mem.2 ?_) (Bool.eq_false_iff.1 no_nul)
    rw [String.toList_append, String.toList_push]
    exact List.mem_append_left _ (List.mem_append_left _ (List.contains_iff_mem.1 nul))
  · rw [String.utf8ByteSize_append, String.utf8ByteSize_push] at short
    omega

/-- **The folder above is in the volume**, unless the volume only begins below it. -/
theorem folder_of_child (sound : volume.Sound) {base : Path} {name : String}
    (ends : base.EndsInName) (proper : Step.ofSegment name = .name name) {top : Location}
    (there : volume.folderAt (base.child name) = .ok top) :
    (∃ above, volume.folderAt base = .ok above) ∨ volume.home = base.child name := by
  rw [folderAt_eq_ok_iff, entryAt_eq_ok_iff] at there
  obtain ⟨followable, led⟩ := place_eq_ok_iff.1 there
  have child := ends.child_eq name
  rw [child] at there
  rcases exists_leads_of_place sound.placed (followable.of_child ends)
    ⟨name, Path.mem_stepsOf List.mem_cons_self proper⟩ there with
    ⟨above, -, folder, -⟩ | ⟨absolute, away⟩
  · exact .inl ⟨above, folder⟩
  right
  have further : (base.child name).isAbsolute = true := by
    obtain ⟨second, rest, segments⟩ := Path.exists_second absolute
    rw [child, segments]
    rfl
  by_cases within : volume.home.segments.isPrefixOf (base.child name).segments = true
  · -- the path of the top folder goes on behind `base`
    rw [child] at within ⊢
    rcases List.prefix_concat_iff.1 (List.isPrefixOf_iff_prefix.1 within) with same | front
    · exact congrArg Path.mk same
    · rw [List.isPrefixOf_iff_prefix.2 front] at away
      cases away
  · have nameless := (led.outside_of further (Bool.eq_false_iff.2 within)).2 name
    refine absurd (Path.mem_stepsOf ?_ proper) nameless
    rw [child]
    exact List.mem_append_right _ List.mem_cons_self

/-! ## 2.  Only names, and no links -/

/-- **Names lead down**, if no link lies on the way.  A lookup may end at a link and follow it. -/
theorem Leads.location_of_names {place : Place} {names : List String}
    (straight : volume.Straight trail.reverse names)
    (led : volume.Leads aim links trail (names.map .name) closed place) :
    place.location = trail.reverse ++ names ∨
      ∃ target, volume.at? (trail.reverse ++ names) = some (.link target) := by
  induction names generalizing trail with
  | nil =>
    cases led with
    | here => exact .inl (List.append_nil _).symm
  | cons name names ih =>
    rw [List.map_cons] at led
    generalize rest : names.map Step.name = steps at led
    cases led with
    | free _ _ =>
      obtain rfl := List.map_eq_nil_iff.1 rest
      exact .inl rfl
    | file _ _ _ =>
      obtain rfl := List.map_eq_nil_iff.1 rest
      exact .inl rfl
    | link _ there _ =>
      obtain rfl := List.map_eq_nil_iff.1 rest
      exact .inr ⟨_, there⟩
    | folder _ _ further =>
      subst rest
      have whole : (name :: trail).reverse ++ names = trail.reverse ++ name :: names := by
        rw [List.reverse_cons, List.append_assoc, List.singleton_append]
      have onward : volume.Straight (name :: trail).reverse names := by
        intro front rest target split some_front some_rest there
        rw [List.reverse_cons, List.append_assoc, List.singleton_append] at there
        exact straight (name :: front) rest target (by rw [split]; rfl) (List.cons_ne_nil _ _)
          some_rest there
      rw [← whole]
      exact ih onward further
    | through _ there _ _ =>
      by_cases last : names = []
      · subst last
        exact .inr ⟨_, there⟩
      · exact absurd there (straight [name] names _ rfl (List.cons_ne_nil _ _) last)

/-- **A path that goes on with names leads to a place at these names**, below the folder that its
beginning leads to, or there is a link at these names. -/
theorem location_of_straight
    (placed : volume.home.isAbsolute = true ∨ volume.home.segments.length ≤ 1) {base : Path}
    {top : Location} (ends : base.EndsInName) (there : volume.folderAt base = .ok top)
    {names : List String} (straight : volume.Straight top names) (some_names : names ≠ [])
    (proper : ∀ name ∈ names, Step.ofSegment name = .name name) {place : Place}
    (led : volume.place aim (base.descend names) = .ok place) :
    place.location = top ++ names ∨ ∃ target, volume.at? (top ++ names) = some (.link target) := by
  have steps := Path.stepsOf_of_names proper
  have named : ∃ name, Step.name name ∈ Path.stepsOf names := by
    obtain ⟨first, rest, rfl⟩ := List.exists_cons_of_ne_nil some_names
    exact ⟨first, by simp [steps]⟩
  rw [folderAt_eq_ok_iff, entryAt_eq_ok_iff, place_eq_ok_iff] at there
  rw [ends.descend_eq] at led
  rcases exists_leads_of_place placed there.1 named led with
    ⟨top', left, there', led⟩ | ⟨absolute, away⟩
  · rw [folderAt_eq_ok_iff, entryAt_eq_ok_iff, place_eq_ok_iff, ← follow_eq_ok_iff] at there'
    have same := (follow_eq_ok_iff.2 there.2).symm.trans there'.2
    cases same
    rw [steps] at led
    have onward : volume.Straight top.reverse.reverse names := by rwa [List.reverse_reverse]
    have reached := led.location_of_names onward
    rwa [List.reverse_reverse] at reached
  · obtain ⟨name, member⟩ := ends.exists_name (List.nil_append _).symm ends.segments_ne_nil
    exact absurd member ((there.2.outside_of absolute away).2 name)

/-- Where there are no links, that is the place. -/
theorem location_of_place (sound : volume.Sound) {base : Path} {top : Location}
    (ends : base.EndsInName) (there : volume.folderAt base = .ok top)
    (unlinked : volume.Unlinked top) {names : List String} (some_names : names ≠ [])
    (proper : ∀ name ∈ names, Step.ofSegment name = .name name) {place : Place}
    (led : volume.place aim (base.descend names) = .ok place) :
    place.location = top ++ names := by
  rcases location_of_straight sound.placed ends there (unlinked.straight names) some_names proper
    led with here | ⟨target, link⟩
  · exact here
  · exact absurd link (unlinked names target some_names)

/-! ## 3.  Paths of any spelling -/

variable {base : Path} {top : Location} {names : List String}

/-- A path that is read in the volume, and so are the paths that go on behind it. -/
structure Covers (volume : Volume) (path : Path) : Prop where
  followable : Followable path
  within : path.isAbsolute = true → volume.home.segments <+: path.trunk

namespace Covers

/-- How the trunk of a path is read does not depend on what follows it. -/
theorem exists_route (covers : volume.Covers base)
    (placed : volume.home.isAbsolute = true ∨ volume.home.segments.length ≤ 1) :
    ∃ start, ∀ more, volume.route ⟨base.trunk ++ more⟩ = start ++ Path.stepsOf more := by
  by_cases absolute : base.isAbsolute = true
  · have front := covers.within absolute
    refine ⟨Path.stepsOf (base.trunk.drop volume.home.segments.length), fun more => ?_⟩
    have within := List.isPrefixOf_iff_prefix.2 (front.trans (List.prefix_append base.trunk more))
    simp only [route, within, if_true]
    rw [List.drop_append_of_le_length front.length_le, Path.stepsOf_append]
  obtain ⟨first, rest, segments, full⟩ : ∃ first rest, base.segments = first :: rest ∧ first ≠ "" :=
    Path.exists_first covers.followable.some_text (Bool.eq_false_iff.2 absolute)
  obtain ⟨behind, whole, -, blank⟩ := base.exists_behind_trunk
  -- the first piece has a text, so it belongs to the trunk
  obtain ⟨front, trunk⟩ : ∃ front, base.trunk = first :: front := by
    rcases trunk : base.trunk with _ | ⟨only, front⟩ <;> rw [trunk, segments] at whole
    · rw [List.nil_append] at whole
      exact absurd (blank first (whole ▸ List.mem_cons_self)) full
    · exact ⟨front, by rw [(List.cons.inj whole).1]⟩
  have some_text : (Path.text ⟨base.trunk⟩).isEmpty = false :=
    trunk ▸ Path.text_isEmpty_of_first full front
  refine ⟨volume.route ⟨base.trunk⟩, fun more =>
    (route_append placed some_text more).resolve_right fun away => ?_⟩
  rw [trunk, Path.isAbsolute_eq_false full] at away
  cases away.1

/-- **Names are asked for behind whatever the path asks for.** -/
theorem route_descend (covers : volume.Covers base)
    (placed : volume.home.isAbsolute = true ∨ volume.home.segments.length ≤ 1)
    (some_names : names ≠ []) (proper : ∀ name ∈ names, Step.ofSegment name = .name name) :
    volume.route (base.descend names) = volume.route base ++ names.map .name := by
  obtain ⟨start, read⟩ := covers.exists_route placed
  obtain ⟨behind, whole, nothing, -⟩ := base.exists_behind_trunk
  have own : volume.route base = start := by
    have same : base = ⟨base.trunk ++ behind⟩ := by rw [← whole]
    rw [same, read, nothing, List.append_nil]
  rw [base.descend_eq_trunk some_names, read, own, Path.stepsOf_of_names proper]

/-- **Where a path goes on with names, its beginning leads to a folder** from which the names are
followed. -/
theorem exists_folderAt (covers : volume.Covers base) (sound : volume.Sound)
    (some_names : names ≠ []) (proper : ∀ name ∈ names, Step.ofSegment name = .name name)
    {place : Place} (led : volume.place aim (base.descend names) = .ok place) :
    ∃ top left, volume.folderAt base = .ok top ∧
      volume.Leads aim left top.reverse (names.map .name) (base.descend names).closed place := by
  obtain ⟨-, led⟩ := place_eq_ok_iff.1 led
  rw [covers.route_descend sound.placed some_names proper] at led
  have named : ∃ name, Step.name name ∈ names.map Step.name := by
    obtain ⟨first, rest, rfl⟩ := List.exists_cons_of_ne_nil some_names
    exact ⟨first, List.mem_cons_self⟩
  obtain ⟨top, left, before, behind⟩ := led.split named base.closed
  refine ⟨top, left, ?_, behind⟩
  rw [folderAt_eq_ok_iff, entryAt_eq_ok_iff, place_eq_ok_iff]
  exact ⟨covers.followable, before⟩

/-- **The place at these names**, if nothing below the folder is a link. -/
theorem location_of_place (covers : volume.Covers base) (sound : volume.Sound)
    (there : volume.folderAt base = .ok top) (unlinked : volume.Unlinked top)
    (some_names : names ≠ []) (proper : ∀ name ∈ names, Step.ofSegment name = .name name)
    {place : Place} (led : volume.place aim (base.descend names) = .ok place) :
    place.location = top ++ names := by
  obtain ⟨top', left, there', led⟩ := covers.exists_folderAt sound some_names proper led
  obtain rfl := Except.ok.inj (there.symm.trans there')
  have straight : volume.Straight top.reverse.reverse names := by
    rw [List.reverse_reverse]
    exact unlinked.straight names
  rcases led.location_of_names straight with here | ⟨target, link⟩ <;>
    rw [List.reverse_reverse] at *
  · exact here
  · exact absurd link (unlinked names target some_names)

/-- The folders on the way are there. -/
theorem folderAt_of_concat (covers : volume.Covers base) (sound : volume.Sound)
    (there : volume.folderAt base = .ok top) (unlinked : volume.Unlinked top)
    (some_names : names ≠ []) {last : String}
    (proper : ∀ name ∈ names ++ [last], Step.ofSegment name = .name name) {location : Location}
    (found : volume.folderAt (base.descend (names ++ [last])) = .ok location) :
    volume.folderAt (base.descend names) = .ok (top ++ names) := by
  have front : ∀ name ∈ names, Step.ofSegment name = .name name := fun name member =>
    proper name (List.mem_append_left _ member)
  have ends := base.endsInName_descend some_names front
  have further : base.descend (names ++ [last]) = (base.descend names).child last := by
    rw [base.descend_eq_trunk (by simp), ends.child_eq, base.descend_eq_trunk some_names,
      List.append_assoc]
  obtain ⟨followable, led⟩ :=
    place_eq_ok_iff.1 (entryAt_eq_ok_iff.1 (folderAt_eq_ok_iff.1 found))
  rw [covers.route_descend sound.placed (by simp) proper, List.map_append, ← List.append_assoc,
    ← covers.route_descend sound.placed some_names front] at led
  obtain ⟨location', left, before, -⟩ :=
    led.split ⟨last, List.mem_cons_self⟩ (base.descend names).closed
  rw [further] at followable
  have reached : volume.place .target (base.descend names) = .ok (.found location' .folder) :=
    place_eq_ok_iff.2 ⟨followable.of_child ends, before⟩
  obtain rfl : location' = top ++ names :=
    covers.location_of_place sound there unlinked some_names front reached
  rw [folderAt_eq_ok_iff, entryAt_eq_ok_iff]
  exact reached

end Covers

/-! ## 4.  Behind the path of the top folder -/

/-- A path that goes on with names behind that of the top folder asks for these names. -/
theorem place_descend_iff {base : Path} (home : volume.home = base) (ends : base.EndsInName)
    {names : List String} (some_names : names ≠ [])
    (proper : ∀ name ∈ names, Step.ofSegment name = .name name)
    (followable : Followable (base.descend names)) {aim : Aim} {place : Place} :
    volume.place aim (base.descend names) = .ok place ↔
      volume.Leads aim maxLinks [] (names.map .name) false place := by
  have segments : (base.descend names).segments = base.segments ++ names := by
    rw [ends.descend_eq]
  have route : volume.route (base.descend names) = names.map .name := by
    rw [route, home, segments,
      if_pos (List.isPrefixOf_iff_prefix.2 (List.prefix_append _ _)), List.drop_left,
      Path.stepsOf_of_names proper]
  have loose : (base.descend names).closed = false := by
    obtain ⟨front, last, rfl⟩ := List.eq_nil_or_concat names |>.resolve_left some_names
    have full := (Step.ofSegment_eq_name_iff.1 (proper last (by simp))).1
    rw [Path.closed, segments]
    simpa using full
  rw [place_eq_ok_iff, route, loose]
  exact ⟨fun led => led.2, fun led => ⟨followable, led⟩⟩

/-- A path with one name more than that of the top folder asks for that name in it. -/
theorem place_child_iff {base : Path} {name : String} (home : volume.home = base)
    (ends : base.EndsInName) (proper : Step.ofSegment name = .name name)
    (followable : Followable (base.child name)) {aim : Aim} {place : Place} :
    volume.place aim (base.child name) = .ok place ↔
      volume.Leads aim maxLinks [] [.name name] false place :=
  place_descend_iff home ends (List.cons_ne_nil name []) (by simpa using proper)
    followable

theorem folderAt_home (followable : Followable volume.home) :
    volume.folderAt volume.home = .ok [] := by
  have route : volume.route volume.home = [] := by
    rw [route, if_pos (List.isPrefixOf_iff_prefix.2 List.prefix_rfl), List.drop_length]
    rfl
  rw [folderAt_eq_ok_iff, entryAt_eq_ok_iff, place_eq_ok_iff, route]
  exact ⟨followable, .here⟩

/-- What lies behind more names lies in a folder. -/
theorem folder_above_names {folder names : Location} {entry : Entry} (some_names : names ≠ [])
    (there : volume.at? (folder ++ names) = some entry) : volume.at? folder = some .folder := by
  induction names generalizing folder with
  | nil => exact absurd rfl some_names
  | cons name names ih =>
    by_cases last : names = []
    · exact folder_above (last ▸ there)
    · rw [← List.singleton_append, ← List.append_assoc] at there
      exact folder_above (ih last there)

/-- Names lead to what they stand for, unless that is a link. -/
theorem leads_of_at? {names : List String} {entry : Entry} (some_names : names ≠ [])
    (there : volume.at? (trail.reverse ++ names) = some entry)
    (plain : ∀ target, entry ≠ .link target)
    (short : ∀ name ∈ names, name.utf8ByteSize ≤ maxName) :
    volume.Leads aim links trail (names.map .name) false
      (.found (trail.reverse ++ names) entry) := by
  induction names generalizing trail with
  | nil => exact absurd rfl some_names
  | cons name names ih =>
    have fits := short name List.mem_cons_self
    by_cases last : names = []
    · subst last
      cases entry with
      | folder =>
        have here : volume.Leads aim links (name :: trail) [] false
            (.found (name :: trail).reverse .folder) := .here
        rw [List.reverse_cons] at here
        exact .folder ⟨by simp, fits⟩ there here
      | file number contents => exact .file ⟨by simp, fits⟩ there rfl
      | link target => exact absurd rfl (plain target)
    · have above : volume.at? (trail.reverse ++ [name]) = some .folder :=
        folder_above_names last (by rwa [List.append_assoc, List.singleton_append])
      have further : trail.reverse ++ name :: names = (name :: trail).reverse ++ names := by simp
      have loose : (names.map Step.name).isEmpty = false := by simp [last]
      rw [further] at there ⊢
      exact .folder ⟨by rw [loose]; rfl, fits⟩ above
        (ih last there fun other member => short other (List.mem_cons_of_mem _ member))

/-- **What lies in the volume is found under its names**, behind the path of the top folder. -/
theorem place_of_at? {names : List String} {entry : Entry} (ends : volume.home.EndsInName)
    (some_names : names ≠ []) (proper : ∀ name ∈ names, Step.ofSegment name = .name name)
    (short : ∀ name ∈ names, name.utf8ByteSize ≤ maxName)
    (followable : Followable (volume.home.descend names)) (there : volume.at? names = some entry)
    (plain : ∀ target, entry ≠ .link target) :
    volume.place aim (volume.home.descend names) = .ok (.found names entry) := by
  have led : volume.Leads aim maxLinks [] (names.map .name) false (.found ([] ++ names) entry) :=
    leads_of_at? some_names there plain short
  exact (place_descend_iff rfl ends some_names proper followable).2 led

end Volume
end Files
end CoverageLink
