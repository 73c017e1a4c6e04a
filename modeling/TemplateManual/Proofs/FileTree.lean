import TemplateManual.Files

set_option autoImplicit false

namespace TemplateManual

namespace Path

def enter (here : Location) (name : String) : Location :=
  if name = "" || name = "." then here else if name = ".." then here.dropLast else here ++ [name]

def reach (here : Location) (names : List String) : Location := names.foldl enter here

theorem split_slashes_ne_nil (chars : List Char) : splitSlashes chars ≠ [] := by
  fun_cases splitSlashes chars <;> simp_all

theorem split_slashes_append (front back : List Char) :
    splitSlashes (front ++ '/' :: back) = splitSlashes front ++ splitSlashes back := by
  fun_induction splitSlashes front with
  | case1 => rfl
  | case2 rest ih => rw [List.cons_append, splitSlashes, ih, List.cons_append]
  | case3 c rest notSlash none ih => exact absurd none (split_slashes_ne_nil rest)
  | case4 c rest notSlash name more found ih =>
      rw [List.cons_append, splitSlashes, ih, found]
      · rfl
      · exact notSlash

theorem drop_end_length (chars : List Char) : (dropEnd chars).length ≤ chars.length := by
  fun_induction dropEnd chars <;> simp_all <;> omega

theorem drop_end_kept_slash (rest : List Char) (kept : dropEnd ('/' :: rest) = '/' :: rest) : rest = [] := by
  cases rest with
  | nil => rfl
  | cons c rest =>
      have shorter := drop_end_length (c :: rest)
      rw [dropEnd] at kept
      · rw [kept, List.length_cons] at shorter
        exact absurd shorter (Nat.not_succ_le_self _)
      · simp

-- What is dropped ends at a slash, unless nothing is dropped or the root is left.
theorem drop_end_cut (chars : List Char) :
    dropEnd chars = ['/'] ∨ dropEnd chars = chars ∨ ∃ dropped, chars = dropped ++ '/' :: dropEnd chars := by
  fun_induction dropEnd chars with
  | case1 => exact Or.inl rfl
  | case2 rest _ ih =>
      rcases ih with root | whole | ⟨dropped, cut⟩
      · exact Or.inl root
      · exact Or.inr (Or.inr ⟨[], by rw [whole]; rfl⟩)
      · exact Or.inr (Or.inr ⟨'/' :: dropped, congrArg ('/' :: ·) cut⟩)
  | case3 rest ih =>
      rcases ih with root | whole | ⟨dropped, cut⟩
      · exact Or.inl root
      · obtain rfl := drop_end_kept_slash rest whole
        exact Or.inl rfl
      · exact Or.inr (Or.inr ⟨'.' :: dropped, congrArg ('.' :: ·) cut⟩)
  | case4 chars => exact Or.inr (Or.inl rfl)

theorem drop_end_suffix (chars : List Char) : ∃ dropped, chars = dropped ++ dropEnd chars := by
  fun_induction dropEnd chars with
  | case1 => exact ⟨[], rfl⟩
  | case2 rest _ ih =>
      obtain ⟨dropped, cut⟩ := ih
      exact ⟨'/' :: dropped, congrArg ('/' :: ·) cut⟩
  | case3 rest ih =>
      obtain ⟨dropped, cut⟩ := ih
      exact ⟨'.' :: dropped, congrArg ('.' :: ·) cut⟩
  | case4 chars => exact ⟨[], rfl⟩

theorem drop_name_cases (chars : List Char) :
    chars.dropWhile (· != '/') = [] ∨ ∃ rest, chars.dropWhile (· != '/') = '/' :: rest := by
  induction chars with
  | nil => exact Or.inl rfl
  | cons c rest ih =>
      by_cases slash : c = '/'
      · exact Or.inr ⟨rest, by simp [slash]⟩
      · simpa [slash] using ih

theorem parent_before_slash (path parent : String) (found : parent? path = some parent) :
    parent = "" ∨ parent = "/" ∨ ∃ after, path.toList = parent.toList ++ '/' :: after := by
  obtain ⟨dropped, cut⟩ := drop_end_suffix path.toList.reverse
  unfold parent? at found
  generalize dropEnd path.toList.reverse = kept at cut found
  split at found
  · cases found
  · cases found
  · obtain rfl := Option.some.inj found
    have names := List.takeWhile_append_dropWhile (p := (· != '/')) (l := kept)
    rw [String.toList_ofList]
    rcases drop_end_cut (kept.dropWhile (· != '/')) with root | whole | ⟨more, cutAgain⟩
    · rw [root]
      exact Or.inr (Or.inl rfl)
    · rw [whole]
      rcases drop_name_cases kept with none | ⟨rest, slash⟩
      · rw [none]
        exact Or.inl rfl
      · rw [slash] at whole ⊢
        rw [drop_end_kept_slash rest whole]
        exact Or.inr (Or.inl rfl)
    · refine Or.inr (Or.inr ⟨(dropped ++ kept.takeWhile (· != '/') ++ more).reverse, ?_⟩)
      rw [← names, cutAgain] at cut
      have chars := congrArg List.reverse cut
      simpa using chars

theorem names_before_slash (path parent : String) (after : List Char)
    (split : path.toList = parent.toList ++ '/' :: after) :
    ∃ rest, rest ≠ [] ∧ names path = names parent ++ rest := by
  refine ⟨(splitSlashes after).map String.ofList, ?_, ?_⟩
  · simpa using split_slashes_ne_nil after
  · rw [names, names, split, split_slashes_append, List.map_append]

theorem absolute_before_slash (path parent : String) (after : List Char) (some : parent ≠ "")
    (split : path.toList = parent.toList ++ '/' :: after) : isAbsolute path = isAbsolute parent := by
  obtain ⟨c, rest, chars⟩ := List.exists_cons_of_ne_nil (mt String.toList_eq_nil_iff.mp some)
  rw [isAbsolute, isAbsolute, split, chars]
  rfl

end Path

namespace FileTree

theorem get_put (tree : FileTree) (location other : Location) (node : Node) (below : location ≠ []) :
    (tree.put location node).get? other = if other = location then some node else tree.get? other := by
  cases other with
  | nil => rw [if_neg (Ne.symm below)]; rfl
  | cons name names =>
      by_cases same : name :: names = location
      · simp [get?, put, same]
      · rw [if_neg same]
        change (List.find? _ ((location, node) :: _)).map Prod.snd = (List.find? _ tree.nodes).map Prod.snd
        rw [List.find?_cons_of_neg (by simpa using Ne.symm same), List.find?_filter]
        congr 2
        funext held
        by_cases found : held.1 = name :: names <;> simp [found, same]

theorem follow_cons (tree : FileTree) (here : Location) (name : String) (names : List String) :
    tree.follow here (name :: names) =
      if tree.isFolder here = true then tree.follow (Path.enter here name) names else none := by
  rw [follow, Path.enter]
  by_cases folder : tree.isFolder here = true
  · by_cases stay : (decide (name = "") || decide (name = ".")) = true
    · simp [folder, stay]
    · by_cases up : name = ".." <;> simp [folder, stay, up]
  · simp [folder]

theorem follow_passes (tree : FileTree) (here location : Location) (names front rest : List String)
    (found : tree.follow here names = some location) (split : names = front ++ rest) (more : rest ≠ []) :
    tree.isFolder (Path.reach here front) = true := by
  induction front generalizing here names with
  | nil =>
      obtain ⟨name, after, rfl⟩ := List.exists_cons_of_ne_nil more
      rw [split, List.nil_append, follow_cons] at found
      by_cases folder : tree.isFolder here = true
      · exact folder
      · rw [if_neg folder] at found
        cases found
  | cons name front ih =>
      rw [split, List.cons_append, follow_cons] at found
      by_cases folder : tree.isFolder here = true
      · rw [if_pos folder] at found
        exact ih _ _ found rfl
      · rw [if_neg folder] at found
        cases found

theorem follow_congr (tree other : FileTree) (folders : ∀ place, tree.isFolder place = other.isFolder place)
    (here : Location) (names : List String) : tree.follow here names = other.follow here names := by
  induction names generalizing here with
  | nil => rfl
  | cons name names ih => rw [follow_cons, follow_cons, folders, ih]

def start (tree : FileTree) (path : String) : Location :=
  if Path.isAbsolute path then [] else tree.working

-- The folders that the front parts of a path lead to. They are those that the making of folders visits, so a
-- name of two dots counts too: the folder before it is passed although the path turns back from it.
def Passes (tree : FileTree) (path : String) (folder : Location) : Prop :=
  ∃ names rest, rest ≠ [] ∧ Path.names path = names ++ rest ∧
    folder = Path.reach (tree.start path) names

theorem locate_eq (tree : FileTree) (path : String) :
    tree.locate path = if path = "" then none else tree.follow (tree.start path) (Path.names path) := by
  rw [locate, start]
  by_cases absolute : Path.isAbsolute path = true <;> simp [absolute]

structure Prepared (tree after : FileTree) (path : String) : Prop where
  working : after.working = tree.working
  nodes : ∀ place, after.get? place = tree.get? place ∨
    tree.Passes path place ∧ tree.get? place = none ∧ after.get? place = some .folder

theorem make_folders_cons (tree : FileTree) (here : Location) (name : String) (names : List String) :
    tree.makeFolders here (name :: names) = tree.makeFolders (Path.enter here name) names ∨
    (Path.enter here name ≠ [] ∧ tree.get? (Path.enter here name) = none ∧
      tree.makeFolders here (name :: names) =
        (tree.put (Path.enter here name) .folder).makeFolders (Path.enter here name) names) ∨
    (tree.isFolder (Path.enter here name) = false ∧ tree.makeFolders here (name :: names) = (tree, false)) := by
  rw [makeFolders, Path.enter]
  by_cases stay : (decide (name = "") || decide (name = ".")) = true
  · rw [if_pos stay, if_pos stay]
    exact Or.inl rfl
  · rw [if_neg stay, if_neg stay]
    by_cases up : name = ".."
    · rw [if_pos up, if_pos up]
      exact Or.inl rfl
    · rw [if_neg up, if_neg up]
      cases held : tree.get? (here ++ [name]) with
      | none => exact Or.inr (Or.inl ⟨by simp, rfl, by simp only [held]⟩)
      | some node => cases node <;> simp [held, isFolder]

theorem make_folders_nodes (tree : FileTree) (here : Location) (names : List String) :
    (tree.makeFolders here names).1.working = tree.working ∧
    ∀ place, (tree.makeFolders here names).1.get? place = tree.get? place ∨
      (∃ front rest, names = front ++ rest ∧ place = Path.reach here front) ∧ tree.get? place = none ∧
        (tree.makeFolders here names).1.get? place = some .folder := by
  induction names generalizing tree here with
  | nil => exact ⟨rfl, fun _ => Or.inl rfl⟩
  | cons name names ih =>
      -- What the later names pass, all names pass.
      have onward : ∀ place,
          (∃ front rest, names = front ++ rest ∧ place = Path.reach (Path.enter here name) front) →
          ∃ front rest, name :: names = front ++ rest ∧ place = Path.reach here front := by
        rintro place ⟨front, rest, rfl, rfl⟩
        exact ⟨name :: front, rest, rfl, rfl⟩
      rcases make_folders_cons tree here name names with known | ⟨below, missing, made⟩ | ⟨_, stopped⟩
      · rw [known]
        obtain ⟨working, nodes⟩ := ih tree (Path.enter here name)
        refine ⟨working, fun place => (nodes place).imp_right ?_⟩
        exact fun fresh => ⟨onward place fresh.1, fresh.2⟩
      · rw [made]
        obtain ⟨working, nodes⟩ := ih (tree.put (Path.enter here name) .folder) (Path.enter here name)
        refine ⟨working, fun place => ?_⟩
        have held := get_put tree (Path.enter here name) place .folder below
        by_cases same : place = Path.enter here name
        · rw [if_pos same] at held
          have folder : (makeFolders _ (Path.enter here name) names).1.get? place = some .folder :=
            (nodes place).elim (fun kept => kept.trans held) fun fresh => fresh.2.2
          exact Or.inr ⟨⟨[name], names, rfl, same⟩, same ▸ missing, folder⟩
        · rw [if_neg same] at held
          rw [← held]
          exact (nodes place).imp_right fun fresh => ⟨onward place fresh.1, fresh.2⟩
      · rw [stopped]
        exact ⟨rfl, fun _ => Or.inl rfl⟩

-- Where a file is in the way of the folders it is in the way of all that lies behind them.
theorem make_folders_blocked (tree : FileTree) (here : Location) (names more : List String)
    (further : more ≠ []) (failed : (tree.makeFolders here names).2 = false) :
    (tree.makeFolders here names).1.follow here (names ++ more) = none := by
  induction names generalizing tree here with
  | nil => cases failed
  | cons name names ih =>
      rw [List.cons_append, follow_cons]
      split
      · rcases make_folders_cons tree here name names with known | ⟨_, _, made⟩ | ⟨noFolder, stopped⟩
        · rw [known] at failed ⊢
          exact ih tree (Path.enter here name) failed
        · rw [made] at failed ⊢
          exact ih (tree.put (Path.enter here name) .folder) (Path.enter here name) failed
        · rw [stopped]
          obtain ⟨next, after, rest⟩ := List.exists_cons_of_ne_nil
            (List.append_ne_nil_of_right_ne_nil names further)
          rw [rest, follow_cons, if_neg (by simp [noFolder])]
      · rfl

theorem create_folders_eq (tree : FileTree) (path : String) :
    tree.createFolders path = tree.makeFolders (tree.start path) (Path.names path) := by
  rw [createFolders, start]
  by_cases absolute : Path.isAbsolute path = true <;> simp [absolute]

theorem prepared_refl (tree : FileTree) (path : String) : tree.Prepared tree path :=
  ⟨rfl, fun _ => Or.inl rfl⟩

theorem create_root (tree : FileTree) : tree.createFolders "/" = (tree, true) := rfl

-- The folders before a file are made for a front part of the names that its path has.
theorem create_parent_cases (tree : FileTree) (path parent : String)
    (found : Path.parent? path = some parent) (some : parent ≠ "") :
    tree.createFolders parent = (tree, true) ∨
    ∃ names rest, rest ≠ [] ∧ Path.names path = names ++ rest ∧
      tree.createFolders parent = tree.makeFolders (tree.start path) names := by
  rcases Path.parent_before_slash path parent found with none | rfl | ⟨after, split⟩
  · exact absurd none some
  · exact Or.inl tree.create_root
  · obtain ⟨rest, more, names⟩ := Path.names_before_slash path parent after split
    refine Or.inr ⟨Path.names parent, rest, more, names, ?_⟩
    rw [create_folders_eq, start, start, Path.absolute_before_slash path parent after some split]

theorem parent_prepared (tree : FileTree) (path parent : String) (found : Path.parent? path = some parent)
    (some : parent ≠ "") : tree.Prepared (tree.createFolders parent).1 path := by
  rcases create_parent_cases tree path parent found some with root | ⟨names, rest, more, split, made⟩
  · rw [root]
    exact prepared_refl tree path
  · rw [made]
    obtain ⟨working, nodes⟩ := make_folders_nodes tree (tree.start path) names
    refine ⟨working, fun place => (nodes place).imp_right ?_⟩
    rintro ⟨⟨front, back, rfl, reached⟩, fresh⟩
    refine ⟨⟨front, back ++ rest, ?_, ?_, reached⟩, fresh⟩
    · exact List.append_ne_nil_of_right_ne_nil back more
    · rw [split, List.append_assoc]

theorem parent_blocked (tree : FileTree) (path parent content : String)
    (found : Path.parent? path = some parent) (some : parent ≠ "")
    (failed : (tree.createFolders parent).2 = false) :
    (tree.createFolders parent).1.write path content = ((tree.createFolders parent).1, false) := by
  have prepared := tree.parent_prepared path parent found some
  rcases create_parent_cases tree path parent found some with root | ⟨names, rest, more, split, made⟩
  · rw [root] at failed
    cases failed
  · have blocked := make_folders_blocked tree (tree.start path) names rest more (made ▸ failed)
    have starts : (tree.createFolders parent).1.start path = tree.start path := by
      rw [start, start, prepared.working]
    rw [← made, ← starts, ← split] at blocked
    rw [write, locate_eq, blocked, ite_self]

theorem write_cases (tree : FileTree) (path content : String) :
    tree.write path content = (tree, false) ∨
    ∃ location, tree.locate path = some location ∧ tree.isFolder location = false ∧
      tree.write path content = (tree.put location (.text content), true) := by
  rw [write]
  cases tree.locate path with
  | none => exact Or.inl rfl
  | some location =>
      cases folder : tree.isFolder location with
      | true => exact Or.inl (if_pos folder)
      | false => exact Or.inr ⟨location, rfl, folder, if_neg (by simp [folder])⟩

structure Wrote (tree after : FileTree) (path content : String) : Prop where
  content : after.read path = .ok content
  working : after.working = tree.working
  passed : ∀ folder, tree.Passes path folder → after.get? folder = some .folder
  others : ∃ location, after.locate path = some location ∧ ∀ place, place ≠ location →
    after.get? place = tree.get? place ∨
      tree.Passes path place ∧ tree.get? place = none ∧ after.get? place = some .folder

theorem below_of_no_folder (tree : FileTree) (location : Location)
    (noFolder : tree.isFolder location = false) : location ≠ [] := by
  rintro rfl
  cases noFolder

theorem put_text_folders (tree : FileTree) (location : Location) (content : String)
    (noFolder : tree.isFolder location = false) (place : Location) :
    (tree.put location (.text content)).isFolder place = tree.isFolder place := by
  rw [isFolder, get_put tree location place _ (below_of_no_folder tree location noFolder)]
  by_cases same : place = location
  · rw [if_pos same, same, noFolder]
    rfl
  · rw [if_neg same, isFolder]

theorem is_folder_iff (tree : FileTree) (place : Location) :
    tree.isFolder place = true ↔ tree.get? place = some .folder := by
  rw [isFolder, beq_iff_eq]

theorem put_wrote (tree middle : FileTree) (path content : String) (location : Location)
    (prepared : tree.Prepared middle path) (found : middle.locate path = some location)
    (noFolder : middle.isFolder location = false) :
    tree.Wrote (middle.put location (.text content)) path content := by
  have held := fun place =>
    get_put middle location place (.text content) (below_of_no_folder middle location noFolder)
  have located : (middle.put location (.text content)).locate path = some location := by
    rw [← found, locate_eq, locate_eq]
    congr 1
    exact follow_congr _ _ (put_text_folders middle location content noFolder) _ _
  have starts : middle.start path = tree.start path := by rw [start, start, prepared.working]
  refine ⟨?_, prepared.working, ?_, location, located, ?_⟩
  · rw [read, located, Option.bind_some, held, if_pos rfl]
  · rintro folder ⟨names, rest, more, split, rfl⟩
    rw [locate_eq] at found
    by_cases blank : path = ""
    · rw [if_pos blank] at found
      cases found
    · rw [if_neg blank, starts] at found
      have passed := follow_passes middle _ location _ names rest found split more
      have apart : Path.reach (tree.start path) names ≠ location := by
        intro same
        rw [same, noFolder] at passed
        cases passed
      rw [held, if_neg apart]
      exact (is_folder_iff middle _).mp passed
  · intro place other
    rw [held, if_neg other]
    exact prepared.nodes place

end FileTree

end TemplateManual
