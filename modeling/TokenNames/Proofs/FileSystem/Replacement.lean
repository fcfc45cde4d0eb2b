import Mathlib.Data.List.DropRight
import TokenNames.FileSystem

/-!
# Replacing files

## What a write changes

A write puts a file at one location of the tree and leaves all others alone.  No directory
appears or goes away, so every path leads where it led before, and the path of the write
leads to the new file.
-/

namespace TokenNames
namespace FileSystem

/-- A path where a file can be put: it ends with a name, in a directory that exists, and no
directory has that name. -/
def Accepts (fs : FileSystem) (path : String) : Prop :=
  exists location, fs.target path = .ok location ∧
    fs.node? location ≠ some .directory

def Meet (fs : FileSystem) (path other : String) : Prop :=
  exists location, fs.locate path = .ok location ∧
    fs.locate other = .ok location

/-- A file system differs from another one in the contents of one file at most.  The file is
there afterwards and need not have been there before. -/
structure Replaces (fs fs' : FileSystem) (path : String)
    (contents : ByteArray) : Prop where
  written : fs'.readBytes path = .ok contents
  kept : forall other contents', ¬ fs.Meet path other ->
    (fs'.readBytes other = .ok contents' ↔ fs.readBytes other = .ok contents')
  elsewhere : exists location, fs.locate path = .ok location ∧
    forall l, l ≠ location -> fs'.node? l = fs.node? l

/-!
# Walks

A walk takes one component after the other.  Where a component leads depends on its
spelling alone; the file system only has to have a directory in which to look it up.
-/

def follow (location : Location) (component : String) :
    Except FileFault Location :=
  if component = "" ∨ component = "." then .ok location
  else if component = ".." then .ok location.tail
  else if 255 < component.utf8ByteSize then .error .nameTooLong
  else .ok (component :: location)

theorem follow_empty (location : Location) :
    follow location "" = .ok location := rfl

theorem follow_name {component : String} (hempty : component ≠ "")
    (hdot : component ≠ ".") (hdots : component ≠ "..")
    (hlength : ¬ 255 < component.utf8ByteSize) (location : Location) :
    follow location component = .ok (component :: location) := by
  unfold follow
  rw [if_neg (not_or.mpr ⟨hempty, hdot⟩), if_neg hdots, if_neg hlength]

variable {fs : FileSystem}

theorem walk_nil_eq_ok_iff {start l : Location} :
    fs.walk start [] = .ok l ↔ start = l := by
  rw [walk, Except.ok.injEq]

theorem walk_cons_of_directory {start : Location}
    (h : fs.node? start = some .directory) (component : String)
    (rest : List String) :
    fs.walk start (component :: rest) =
      (follow start component).bind fun next => fs.walk next rest := by
  rw [walk, h]
  show (if component = "" ∨ component = "." then _ else _) = _
  unfold follow
  split
  · rfl
  · split
    · rfl
    · split <;> rfl

theorem walk_cons_eq_ok_iff {start l : Location} {component : String}
    {rest : List String} :
    fs.walk start (component :: rest) = .ok l ↔
      fs.node? start = some .directory ∧
        exists next, follow start component = .ok next ∧
          fs.walk next rest = .ok l := by
  cases hnode : fs.node? start with
  | none => simp [walk, hnode]
  | some node =>
      cases node with
      | file contents => simp [walk, hnode]
      | directory =>
          rw [walk_cons_of_directory hnode]
          cases follow start component <;> simp [Except.bind]

theorem walk_append_eq_ok_iff {start l : Location}
    {parts parts' : List String} :
    fs.walk start (parts ++ parts') = .ok l ↔
      exists middle, fs.walk start parts = .ok middle ∧
        fs.walk middle parts' = .ok l := by
  induction parts generalizing start with
  | nil => simp [walk_nil_eq_ok_iff]
  | cons component parts ih =>
      rw [List.cons_append, walk_cons_eq_ok_iff]
      simp only [walk_cons_eq_ok_iff, ih]
      constructor
      · intro h
        rcases h with ⟨hnode, next, hfollow, middle, hfront, hback⟩
        exact ⟨middle, ⟨hnode, next, hfollow, hfront⟩, hback⟩
      · intro h
        rcases h with ⟨middle, ⟨hnode, next, hfollow, hfront⟩, hback⟩
        exact ⟨hnode, next, hfollow, middle, hfront, hback⟩

theorem walk_congr {fs' : FileSystem}
    (h : forall l, fs'.node? l = some .directory ↔
      fs.node? l = some .directory)
    {start l : Location} {parts : List String} :
    fs'.walk start parts = .ok l ↔ fs.walk start parts = .ok l := by
  induction parts generalizing start with
  | nil => rw [walk_nil_eq_ok_iff, walk_nil_eq_ok_iff]
  | cons component parts ih =>
      simp only [walk_cons_eq_ok_iff, h, ih]

/-!
# Paths

The target of a write is the location to which its path leads: the directory is reached by
all components but the last, and the last one is a name in it.
-/

theorem locate_eq_ok_iff {path : String} {l : Location} :
    fs.locate path = .ok l ↔
      exists parts, usable path = .ok parts ∧ fs.walk [] parts = .ok l := by
  unfold locate
  cases usable path <;> simp

theorem locate_congr {fs' : FileSystem}
    (h : forall l, fs'.node? l = some .directory ↔
      fs.node? l = some .directory)
    {path : String} {l : Location} :
    fs'.locate path = .ok l ↔ fs.locate path = .ok l := by
  simp only [locate_eq_ok_iff, walk_congr h]

theorem walk_concat_of_directory {start directory location : Location}
    {front : List String} {name : String}
    (h : fs.walk start (front ++ [""]) = .ok directory)
    (hname : follow directory name = .ok location) :
    fs.walk start (front ++ [name]) = .ok location := by
  rcases walk_append_eq_ok_iff.mp h with ⟨middle, hfront, hlast⟩
  rcases walk_cons_eq_ok_iff.mp hlast with ⟨hnode, next, hnext, hend⟩
  rw [follow_empty] at hnext
  cases hnext
  rw [walk_nil_eq_ok_iff] at hend
  rw [hend] at hfront hnode
  rw [walk_append_eq_ok_iff]
  refine ⟨directory, hfront, ?_⟩
  rw [walk_cons_of_directory hnode, hname]
  rfl

theorem rdropWhile_of_getLast? {parts : List String} {name : String}
    (h : parts.getLast? = some name) (hname : name ≠ "") :
    (parts.reverse.dropWhile (· = "")).reverse = parts := by
  show parts.rdropWhile (· = "") = parts
  rw [List.rdropWhile_eq_self_iff]
  intro hne
  rw [List.getLast?_eq_getLast_of_ne_nil hne, Option.some.injEq] at h
  rw [h]
  simpa using hname

theorem exists_name_of_target {path : String} {location : Location}
    (h : fs.target path = .ok location) :
    exists front name directory,
      usable path = .ok (front ++ [name]) ∧
        fs.walk [] (front ++ [""]) = .ok directory ∧
        follow directory name = .ok location := by
  unfold target at h
  split at h
  · cases h
  · next parts husable =>
      simp only at h
      split at h
      · cases h
      · next directory hdirectory =>
          split at h
          · cases h
          · cases h
          · cases h
          · cases h
          · next name hempty hdot hdots hlast =>
              split at h
              · cases h
              · next hlength =>
                  cases h
                  rcases List.getLast?_eq_some_iff.mp hlast with ⟨front, hparts⟩
                  rw [rdropWhile_of_getLast? hlast hempty, hparts,
                    List.dropLast_concat] at hdirectory
                  rw [hparts] at husable
                  exact ⟨front, name, directory, husable, hdirectory,
                    follow_name hempty hdot hdots hlength directory⟩

theorem locate_of_target {path : String} {location : Location}
    (h : fs.target path = .ok location) :
    fs.locate path = .ok location := by
  rcases exists_name_of_target h with
    ⟨front, name, directory, husable, hdirectory, hname⟩
  rw [locate_eq_ok_iff]
  exact ⟨_, husable, walk_concat_of_directory hdirectory hname⟩

/-!
# Reading
-/

theorem readBytes_eq_ok_iff {path : String} {contents : ByteArray} :
    fs.readBytes path = .ok contents ↔
      exists location, fs.locate path = .ok location ∧
        fs.node? location = some (.file contents) := by
  unfold readBytes
  cases hlocate : fs.locate path with
  | error fault => simp
  | ok location =>
      cases hnode : fs.node? location with
      | none => simp [hnode]
      | some node => cases node <;> simp [hnode]

theorem decode_toUTF8 (text : String) : decode text.toUTF8 = .ok text := by
  have hvalid : String.fromUTF8? text.toUTF8 = some text :=
    dif_pos text.isValidUTF8
  unfold decode
  rw [hvalid]

theorem readText_of_readBytes {path text : String}
    (h : fs.readBytes path = .ok text.toUTF8) :
    fs.readText path = .ok text := by
  unfold readText
  rw [h]
  exact decode_toUTF8 text

/-!
# Writing
-/

section Set

variable {location : Location} (contents : ByteArray)

theorem directory_set_iff (h : fs.node? location ≠ some .directory)
    (l : Location) :
    (fs.set location (.file contents)).node? l = some .directory ↔
      fs.node? l = some .directory := by
  by_cases hl : l = location
  · rw [hl, node?_set_self]
    simp [h]
  · rw [node?_set_of_ne fs _ hl]

theorem locate_set_eq_ok_iff (h : fs.node? location ≠ some .directory)
    {path : String} {l : Location} :
    (fs.set location (.file contents)).locate path = .ok l ↔
      fs.locate path = .ok l :=
  locate_congr (directory_set_iff contents h)

theorem readBytes_set_of_not_meet (h : fs.node? location ≠ some .directory)
    {path other : String} (hpath : fs.locate path = .ok location)
    (hother : ¬ fs.Meet path other) (contents' : ByteArray) :
    (fs.set location (.file contents)).readBytes other = .ok contents' ↔
      fs.readBytes other = .ok contents' := by
  have hapart : forall l, fs.locate other = .ok l -> l ≠ location := by
    intro l hl heq
    rw [heq] at hl
    exact hother ⟨location, hpath, hl⟩
  rw [readBytes_eq_ok_iff, readBytes_eq_ok_iff]
  simp only [locate_set_eq_ok_iff contents h]
  apply exists_congr
  intro l
  apply and_congr_right
  intro hl
  rw [node?_set_of_ne fs _ (hapart l hl)]

theorem replaces_set (h : fs.node? location ≠ some .directory)
    {path : String} (hpath : fs.locate path = .ok location) :
    Replaces fs (fs.set location (.file contents)) path contents where
  written := by
    rw [readBytes_eq_ok_iff]
    exact ⟨location, (locate_set_eq_ok_iff contents h).mpr hpath,
      node?_set_self fs location _⟩
  kept := by
    intro other contents' hother
    exact readBytes_set_of_not_meet contents h hpath hother contents'
  elsewhere := by
    refine ⟨location, hpath, ?_⟩
    intro l hl
    exact node?_set_of_ne fs _ hl

end Set

theorem writeText_eq_ok_iff {path text : String} {fs' : FileSystem} :
    fs.writeText path text = .ok fs' ↔
      exists location, fs.target path = .ok location ∧
        fs.node? location ≠ some .directory ∧
        fs' = fs.set location (.file text.toUTF8) := by
  unfold writeText
  cases htarget : fs.target path with
  | error fault => simp
  | ok location =>
      cases hnode : fs.node? location with
      | none => simp [hnode, eq_comm]
      | some node => cases node <;> simp [hnode, eq_comm]

theorem exists_writeText_iff {path text : String} :
    (exists fs', fs.writeText path text = .ok fs') ↔ fs.Accepts path := by
  simp only [writeText_eq_ok_iff]
  constructor
  · intro h
    rcases h with ⟨fs', location, htarget, hnode, _⟩
    exact ⟨location, htarget, hnode⟩
  · intro h
    rcases h with ⟨location, htarget, hnode⟩
    exact ⟨_, location, htarget, hnode, rfl⟩

theorem replaces_of_writeText {path text : String} {fs' : FileSystem}
    (h : fs.writeText path text = .ok fs') :
    Replaces fs fs' path text.toUTF8 := by
  rcases writeText_eq_ok_iff.mp h with ⟨location, htarget, hnode, hfs'⟩
  rw [hfs']
  exact replaces_set _ hnode (locate_of_target htarget)

end FileSystem
end TokenNames
