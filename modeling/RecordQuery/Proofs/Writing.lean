import Mathlib.Data.List.Basic
import RecordQuery.Files

/-!
# Files that were written

A write that succeeds has found a route that is no directory, and puts its text at the end of
it (`RecordQuery.Files.write_eq_ok_iff`). The path then reads as the text
(`RecordQuery.Files.read_write`), so that a working directory is one of the storages that keep
what is written to them (`RecordQuery.LawfulStorage`).

The second is not plain: a path may go through a directory and back, and what was put could
have turned a name on the way into a file. It does not, because every directory on the way
was entered, and the one route that changes was not a directory.
-/

namespace RecordQuery.Files

variable {files : Files}

/-! ### The route of a write -/

/-- **Whether a path leads to a route where a file can be put**: its names but the last lead
to a directory, the last one leads on to the route, and no directory is there. -/
structure Leads (files : Files) (path : String) (parents : List String) (name : String)
    (route : Route) : Prop where
  refusePath_eq : refusePath path = .ok ()
  names_eq : names path = parents ++ [name]
  name_ne : name ≠ ""
  follow_eq : ∃ parent, files.locate path parents = .ok parent ∧
    files.follow parent name = .ok (.inside route)
  content?_ne : files.content? route ≠ some .directory

/-- A name is followed only from a directory. -/
theorem enter_of_follow {place next : Place} {name : String}
    (h : files.follow place name = .ok next) : files.enter place = .ok () := by
  unfold follow at h
  cases henter : files.enter place with
  | error fault => rw [henter] at h; exact absurd h (by simp)
  | ok _ => rfl

/-- A path has at least one name. -/
theorem exists_names_eq (path : String) : ∃ parents name, names path = parents ++ [name] := by
  have hne : names path ≠ [] := by
    rw [names, Ne, List.map_eq_nil_iff]
    exact Text.pieces_ne_nil _ _
  exact ⟨_, _, (List.dropLast_append_getLast hne).symm⟩

/-- A path that ends in a slash is not written. -/
theorem write_of_slash {path : String} {parents : List String}
    (hnames : names path = parents ++ [""]) (text : String) (written : Files) :
    files.write path text ≠ .ok written := by
  have hempty : "".isEmpty = true := rfl
  rw [write, hnames]
  simp only [List.reverse_append, List.reverse_cons, List.reverse_nil, List.nil_append,
    List.singleton_append, List.takeWhile_cons, hempty, if_true, List.isEmpty_cons,
    Bool.not_false, bind, Except.bind]
  -- whatever succeeds before it, the slash is refused
  cases refusePath path with
  | error fault => simp
  | ok _ =>
    generalize files.locate path _ = found
    cases found with
    | error fault => simp
    | ok parent =>
      dsimp only
      generalize files.enter parent = entered
      cases entered with
      | error fault => simp
      | ok _ => simp [throw, throwThe, MonadExceptOf.throw]

/-- What a write does with the names of a path that does not end in a slash. -/
theorem write_of_names {path : String} {parents : List String} {name : String}
    (hnames : names path = parents ++ [name]) (hname : name ≠ "") (text : String) :
    files.write path text = (do
      refusePath path
      match ← files.follow (← files.locate path parents) name with
      | .outside => throw .isADirectory
      | .inside route =>
        if files.content? route = some .directory then throw .isADirectory
        else pure (files.put route text)) := by
  have hempty : name.isEmpty = false := by simpa using hname
  rw [write, hnames]
  simp only [List.reverse_append, List.reverse_cons, List.reverse_nil, List.nil_append,
    List.singleton_append, List.takeWhile_cons, List.dropWhile_cons, hempty, Bool.false_eq_true,
    if_false, List.isEmpty_nil, Bool.not_true, List.head?_cons, Option.getD_some, List.tail_cons,
    List.reverse_reverse, bind, Except.bind]
  cases refusePath path with
  | error fault => rfl
  | ok _ =>
    cases files.locate path parents with
    | error fault => rfl
    | ok parent =>
      dsimp only
      -- following the last name enters its directory once more
      cases henter : files.enter parent with
      | error fault =>
        have hfollow : files.follow parent name = .error fault := by rw [follow.eq_def, henter]
        rw [hfollow]
      | ok _ => rfl

/-- **A write succeeds** exactly if its path leads to a route where a file can be put, and then
it puts the text there. -/
theorem write_eq_ok_iff {written : Files} {path text : String} :
    files.write path text = .ok written ↔
      ∃ parents name route, files.Leads path parents name route ∧
        written = files.put route text := by
  obtain ⟨parents, name, hnames⟩ := exists_names_eq path
  constructor
  · intro h
    have hname : name ≠ "" := by
      rintro rfl
      exact write_of_slash hnames text written h
    rw [write_of_names hnames hname] at h
    simp only [bind, Except.bind] at h
    split at h
    · exact absurd h (by simp)
    · next hrefuse =>
      split at h
      · exact absurd h (by simp)
      · next parent hlocate =>
        split at h
        · exact absurd h (by simp)
        · next place hfollow =>
          split at h
          · exact absurd h (by simp [throw, throwThe, MonadExceptOf.throw])
          · next route =>
            split at h
            · exact absurd h (by simp [throw, throwThe, MonadExceptOf.throw])
            · next hcontent =>
              obtain rfl : files.put route text = written := Except.ok.inj h
              exact ⟨parents, name, route,
                ⟨hrefuse, hnames, hname, ⟨parent, hlocate, hfollow⟩, hcontent⟩, rfl⟩
  · rintro ⟨parents, name, route, hleads, rfl⟩
    obtain ⟨parent, hlocate, hfollow⟩ := hleads.follow_eq
    rw [write_of_names hleads.names_eq hleads.name_ne]
    simp only [bind, Except.bind, hleads.refusePath_eq, hlocate, hfollow, hleads.content?_ne,
      if_false]
    rfl

/-! ### What a put leaves -/

section Put

variable {route : Route} (text : String)

/-- The text is what the route leads to. -/
theorem content?_put_self : (files.put route text).content? route = some (.text text) := by
  rw [content?, put, List.lookup_cons_self]

/-- The entries of other routes are still there. -/
theorem lookup_put_of_ne {other : Route} (hother : other ≠ route) :
    (files.put route text).entries.lookup other = files.entries.lookup other := by
  have hfilter : ∀ entries : List (Route × Content),
      (entries.filter fun entry => entry.1 != route).lookup other = entries.lookup other := by
    intro entries
    induction entries with
    | nil => rfl
    | cons entry entries ih =>
      by_cases hentry : entry.1 = route
      · have hne : (other == entry.1) = false := by simpa [hentry] using hother
        rw [List.filter_cons_of_neg (by simp [hentry]), ih, List.lookup_cons, hne]
      · rw [List.filter_cons_of_pos (by simp [hentry]), List.lookup_cons, List.lookup_cons, ih]
  have hne : (other == route) = false := by simpa using hother
  rw [put, List.lookup_cons, hne]
  exact hfilter files.entries

/-- **A directory stays a directory**: its own entry is still there, or an entry in it. -/
theorem content?_put_of_directory {other : Route} (hother : other ≠ route)
    (h : files.content? other = some .directory) :
    (files.put route text).content? other = some .directory := by
  rw [content?, lookup_put_of_ne text hother]
  rw [content?] at h
  cases hlookup : files.entries.lookup other with
  | some content => rw [hlookup] at h; exact h
  | none =>
    rw [hlookup] at h
    dsimp only at h ⊢
    by_cases hinside : files.entries.any fun entry => other.isPrefixOf entry.1
    · obtain ⟨entry, hentry, hprefix⟩ := List.any_eq_true.1 hinside
      rw [if_pos]
      refine List.any_eq_true.2 ?_
      by_cases hroute : entry.1 = route
      · exact ⟨(route, .text text), List.mem_cons_self, hroute ▸ hprefix⟩
      · exact ⟨entry, List.mem_cons_of_mem _ (List.mem_filter.2 ⟨hentry, by simpa using hroute⟩),
          hprefix⟩
    · rw [if_neg hinside] at h
      split
      · rfl
      · exact h

variable (hroute : files.content? route ≠ some .directory)
include hroute

/-- What could be entered can be entered still. -/
theorem enter_put {place : Place} (h : files.enter place = .ok ()) :
    (files.put route text).enter place = .ok () := by
  cases place with
  | outside => rfl
  | inside other =>
    rw [enter] at h ⊢
    cases hcontent : files.content? other with
    | none => rw [hcontent] at h; exact absurd h (by simp)
    | some content =>
      cases content with
      | directory =>
        have hother : other ≠ route := by
          rintro rfl
          exact hroute hcontent
        rw [content?_put_of_directory text hother hcontent]
      | _ => rw [hcontent] at h; exact absurd h (by simp)

/-- So every name leads where it led. -/
theorem follow_put {place next : Place} {name : String}
    (h : files.follow place name = .ok next) :
    (files.put route text).follow place name = .ok next := by
  have henter := enter_of_follow h
  rw [follow.eq_def, henter] at h
  rw [follow.eq_def, enter_put text hroute henter]
  exact h

theorem locate_put {path : String} {parents : List String} {place : Place}
    (h : files.locate path parents = .ok place) :
    (files.put route text).locate path parents = .ok place := by
  rw [locate] at h ⊢
  generalize start path = first at h ⊢
  induction parents generalizing first with
  | nil => exact h
  | cons name parents ih =>
    rw [List.foldlM_cons] at h ⊢
    cases hfollow : files.follow first name with
    | error fault => rw [hfollow] at h; exact absurd h (by simp [bind, Except.bind])
    | ok next =>
      rw [hfollow] at h
      rw [follow_put text hroute hfollow]
      exact ih next h

end Put

/-- **A file that was written reads as what was written.** -/
theorem read_write {path text : String} {written : Files}
    (h : files.write path text = .ok written) : written.read path = .ok text := by
  obtain ⟨parents, name, route, hleads, rfl⟩ := write_eq_ok_iff.1 h
  obtain ⟨parent, hlocate, hfollow⟩ := hleads.follow_eq
  have hplace : (files.put route text).locate path (names path) = .ok (.inside route) := by
    rw [hleads.names_eq, locate, List.foldlM_append, ← locate,
      locate_put text hleads.content?_ne hlocate]
    simp only [List.foldlM_cons, List.foldlM_nil, bind, Except.bind,
      follow_put text hleads.content?_ne hfollow]
    rfl
  simp only [read, bind, Except.bind, hleads.refusePath_eq, hplace, content?_put_self]
  rfl

end RecordQuery.Files

namespace RecordQuery

/-- **Files that read as what was written to them.** -/
class LawfulStorage (σ : Type) [Storage σ] : Prop where
  /-- A file that was written has the text that was written. -/
  read_write : ∀ {files written : σ} {path text : String},
    Storage.write files path text = .ok written → Storage.read written path = .ok text

instance : LawfulStorage Files := ⟨Files.read_write⟩

end RecordQuery
