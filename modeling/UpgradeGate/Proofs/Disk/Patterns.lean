import UpgradeGate.Disk.Glob
import UpgradeGate.Proofs.Disk.Names
import UpgradeGate.Proofs.Fields

/-!
# Looking for a file in every folder

A pattern of any folder and a name finds what has that name in each folder inside a folder, in the
order of the folders (`Glob.find_of_fits`). It fails only where a name is too long
(`Glob.find_of_long`).
-/

namespace UpgradeGate

/-! ## Plain names -/

/-- A name that holds neither a separator of steps nor a wildcard. -/
def IsPlain (name : String) : Prop := '/' ∉ name.toList ∧ Glob.isWild name = false

namespace Path

/-- A text without separators is one step. -/
theorem ofText_of_plain {name : String} (plain : '/' ∉ name.toList) (step : isStep name = true) :
    ofText name = [name] := by
  have inside : name.startsWith "/" = false := by
    rw [String.startsWith, Bool.eq_false_iff]
    intro starts
    rw [String.Slice.startsWith_string_iff, String.copy_toSlice] at starts
    exact plain (starts.subset (by decide))
  rw [ofText, List.splitOn_eq_singleton plain]
  simp [inside, step]

/-- A name without a slash is one more step of a path. -/
theorem child_of_plain (path : Path) {name : String} (plain : '/' ∉ name.toList)
    (step : isStep name = true) : path.child name = path ++ [name] := by
  have relative : name ≠ "/" := by
    rintro rfl
    exact plain (by decide)
  simp [child, join, ofText_of_plain plain step, relative]

/-- The pattern of a name in any folder. -/
theorem ofText_of_any {name : String} (plain : '/' ∉ name.toList) (step : isStep name = true) :
    ofText ("*/" ++ name) = ["*", name] := by
  have relative : ("*/" ++ name).startsWith "/" = false := by
    rw [String.startsWith, Bool.eq_false_iff]
    intro starts
    rw [String.Slice.startsWith_string_iff, String.copy_toSlice] at starts
    simp at starts
  have steps : ("*/" ++ name).toList.splitOn '/' = [['*'], name.toList] := by
    have first : ∀ c ∈ ['*'], (c == '/') = false := by simp
    have split := List.splitOnP_append_cons_of_forall_mem first '/' (beq_self_eq_true _) name.toList
    rw [← List.splitOn_eq_singleton plain, String.toList_append]
    exact split
  have any : isStep "*" = true := by decide
  rw [ofText, steps]
  simp [relative, step, any]

end Path

namespace IsPlain

variable {name : String}

/-- An ending keeps a name plain. -/
theorem append (plain : IsPlain name) {ending : String} (ends : IsPlain ending) :
    IsPlain (name ++ ending) := by
  refine ⟨?_, ?_⟩
  · rw [String.toList_append, List.mem_append]
    exact not_or.2 ⟨plain.1, ends.1⟩
  · rw [Glob.isWild, String.toList_append, List.any_append, Bool.or_eq_false_iff]
    exact ⟨plain.2, ends.2⟩

end IsPlain

namespace Disk

variable {disk : Disk} {path : Path}

/-- The names in the folder that a path leads to. -/
def namesAt (disk : Disk) (path : Path) : List String :=
  if disk.isFolder path then disk.names (Path.target [] path) else []

/-- Looking fails only at a name that is too long. -/
theorem fileName_of_look {kind : Kind} (failed : disk.look path = .error kind) :
    kind = .fileName := by
  rw [look] at failed
  split at failed
  · cases failed
  · cases failed
    rfl
  · cases failed

/-- Something is seen at the end of a path that can be followed. -/
theorem look_eq_some_iff {node : Node} : disk.look path = .ok (some node) ↔
    ∃ place, disk.follow [] path = .ok place ∧ disk.node? place = some node := by
  constructor
  · intro found
    rw [look] at found
    split at found
    · next place followed => exact ⟨place, followed, by injection found⟩
    · cases found
    · cases found
  · rintro ⟨place, followed, found⟩
    rw [look_of_follow followed, found]

/-- A path leads to a folder. -/
theorem isFolder_iff : disk.isFolder path = true ↔ disk.look path = .ok (some .folder) := by
  rw [isFolder]
  split
  · next found => simp [found]
  · next other => simpa using other

/-- What is inside of something is seen only if that is a folder. -/
theorem look_inside (path : Path) (name : String) (rest : Path) :
    (∃ kind, disk.look path = .error kind ∧
      disk.look (path ++ name :: rest) = .error .fileName) ∨
    (∃ node, disk.look path = .ok node ∧ node ≠ some .folder ∧
      disk.look (path ++ name :: rest) = .ok none) ∨
    disk.look path = .ok (some .folder) := by
  cases followed : disk.follow [] path with
  | error kind =>
    have beyond : disk.follow [] (path ++ name :: rest) = .error kind := by
      rw [follow_append, followed]
      rfl
    rw [look_of_error followed, look_of_error beyond]
    by_cases long : kind = .fileName
    · exact .inl ⟨.fileName, by simp [long]⟩
    · exact .inr (.inl ⟨none, by simp [long]⟩)
  | ok place =>
    rw [look_of_follow followed]
    by_cases folder : disk.node? place = some .folder
    · exact .inr (.inr (congrArg Except.ok folder))
    refine .inr (.inl ⟨_, rfl, folder, ?_⟩)
    have beyond : disk.follow [] (path ++ name :: rest) = disk.follow place (name :: rest) := by
      rw [follow_append, followed]
      rfl
    rw [look, beyond, follow]
    cases found : disk.node? place with
    | none => rfl
    | some node =>
      cases node with
      | folder => exact absurd found folder
      | file => rfl
      | database => rfl

end Disk

namespace Glob

variable {disk : Disk} {path : Path} {place : Place} {file : String}

/-! ## Steps -/

theorem fits_any (name : String) : fits "*" name = true := by
  have pieces_any : pieces ['*'] = [.anyMany] := by
    simp [pieces]
  have any (text : List Char) : describes [.anyMany] text = true := by
    induction text with
    | nil => simp [describes]
    | cons c rest ih =>
      rw [describes, ih, Bool.or_true]
  have step : "*".toList = ['*'] := rfl
  rw [fits, step, pieces_any, any]

/-- A text without stars has no double star. -/
theorem not_hasDoubleStar {text : List Char} (plain : '*' ∉ text) : hasDoubleStar text = false := by
  induction text with
  | nil => rfl
  | cons c rest ih =>
    have first : c ≠ '*' := fun same => plain (same ▸ List.mem_cons_self ..)
    have others : '*' ∉ rest := fun inside => plain (List.mem_cons_of_mem _ inside)
    rw [hasDoubleStar.eq_def]
    split
    · next same =>
      cases same
      exact absurd rfl first
    · next same =>
      cases same
      exact ih others
    · rfl

/-- A plain step has no star in the wrong place. -/
theorem isMisplaced_of_plain {step : String} (plain : isWild step = false) :
    isMisplaced step = false := by
  rw [isMisplaced, not_hasDoubleStar, Bool.and_false]
  intro star
  have wild : isWild step = true := List.any_eq_true.2 ⟨'*', star, by decide⟩
  cases wild.symm.trans plain

/-! ## Searching -/

/-- What a path leads to, as what a search finds. -/
def seen (disk : Disk) (path : Path) : Except Kind (List Path) :=
  (disk.look path).map fun node => if node.isSome then [path] else []

/-- A name is looked for in a folder. -/
theorem search_name (folder : disk.look path = .ok (some .folder)) (plain : isWild file = false)
    (down : file ≠ "..") : search disk [file] path = seen disk (path ++ [file]) := by
  obtain ⟨place, followed, found⟩ := Disk.look_eq_some_iff.1 folder
  have single : file ≠ "**" := by
    rintro rfl
    cases plain
  have last : visit disk true (search disk []) (path ++ [file]) = seen disk (path ++ [file]) := by
    rw [visit, seen]
    cases disk.look (path ++ [file]) with
    | error kind => rfl
    | ok node =>
      cases node with
      | none => rfl
      | some node => cases node <;> rfl
  rw [search, followed]
  simp only [found, single, down, plain, if_false, Bool.false_eq_true, List.isEmpty_nil,
    List.mapM_cons, List.mapM_nil, last]
  cases seen disk (path ++ [file]) with
  | error kind => rfl
  | ok paths => exact congrArg Except.ok (List.append_nil paths)

/-- A name is looked for in everything that is inside a folder. -/
theorem search_any (plain : isWild file = false) (down : file ≠ "..") :
    search disk ["*", file] path =
      ((disk.namesAt path).mapM fun name => seen disk (path ++ [name, file])).map
        List.flatten := by
  by_cases folder : disk.look path = .ok (some .folder)
  case neg =>
    have names : disk.namesAt path = [] := by
      rw [Disk.namesAt, if_neg fun inside => folder (Disk.isFolder_iff.1 inside)]
    rw [names, search]
    split
    · rfl
    · next place followed =>
      split
      · next found => exact absurd (Disk.look_eq_some_iff.2 ⟨place, followed, found⟩) folder
      · rfl
  obtain ⟨place, followed, found⟩ := Disk.look_eq_some_iff.1 folder
  have names : disk.namesAt path = disk.names place := by
    rw [Disk.namesAt, if_pos (Disk.isFolder_iff.2 folder), Disk.follow_eq_target followed]
  have any : isWild "*" = true := by decide
  have every : (disk.names place).filter (fits "*") = disk.names place := by
    simp [fits_any]
  have each (name : String) : visit disk false (search disk [file]) (path ++ [name]) =
      seen disk (path ++ [name, file]) := by
    have steps : path ++ [name, file] = path ++ [name] ++ file :: [] := by simp
    rcases disk.look_inside (path ++ [name]) file [] with
      ⟨kind, failed, beyond⟩ | ⟨node, looked, solid, beyond⟩ | inner
    · rw [visit, failed, seen, steps, beyond, Disk.fileName_of_look failed]
      rfl
    · rw [visit, looked, seen, steps, beyond]
      cases node with
      | none => rfl
      | some node =>
        cases node with
        | folder => exact absurd rfl solid
        | file => rfl
        | database => rfl
    · rw [visit, inner, steps]
      exact search_name inner plain down
  rw [search, followed, names, ← funext each]
  simp only [found, any, every, if_true, String.reduceEq, if_false, List.mapM_map]
  rfl

/-! ## Finding -/

/-- The order of paths is transitive. -/
theorem before_trans (a b c : Path) (first : before a b = true) (second : before b c = true) :
    before a c = true := by
  rw [before, Bool.not_eq_true', ← Bool.not_eq_true, List.lex_eq_true_iff_lt, List.not_lt] at *
  exact List.le_trans first second

/-- Any two paths are in order one way or the other. -/
theorem before_total (a b : Path) : (before a b || before b a) = true := by
  rw [Bool.or_eq_true]
  simp only [before, Bool.not_eq_true', ← Bool.not_eq_true, List.lex_eq_true_iff_lt, List.not_lt]
  exact List.le_total a b

/-- Paths that part at one folder are in the order of the names there. -/
theorem before_iff (path : Path) (file a b : String) :
    before (path ++ [a, file]) (path ++ [b, file]) = true ↔ ¬ b < a := by
  have same (step : String) : decide (step < step) = false :=
    decide_eq_false (String.lt_irrefl step)
  induction path with
  | nil =>
    simp only [before, List.nil_append, List.lex, same, Bool.and_false, Bool.or_false,
      Bool.not_eq_true', decide_eq_false_iff_not]
  | cons step rest ih =>
    refine Iff.trans ?_ ih
    simp only [before, List.cons_append, List.lex, same, beq_self_eq_true, Bool.true_and,
      Bool.false_or]

/-- A path is not seen where looking at it fails. -/
theorem seen_eq_error_iff {kind : Kind} :
    seen disk path = .error kind ↔ disk.look path = .error kind := by
  rw [seen]
  cases disk.look path <;> simp [Except.map]

/-- A path is seen where something is at its end. -/
theorem seen_eq_ok_iff {paths : List Path} : seen disk path = .ok paths ↔
    ∃ node, disk.look path = .ok node ∧ paths = if node.isSome then [path] else [] := by
  rw [seen]
  cases disk.look path with
  | error kind => simp [Except.map]
  | ok node =>
    constructor
    · rintro ⟨⟩
      exact ⟨node, rfl, rfl⟩
    · rintro ⟨_, ⟨⟩, rfl⟩
      rfl

/-- **A name that is too long** cannot be looked for. -/
theorem find_of_long (plain : isWild file = false) (down : file ≠ "..") {name : String}
    (listed : name ∈ disk.namesAt path)
    (long : disk.look (path ++ [name, file]) = .error .fileName) :
    find disk ["*", file] path = .error .fileName := by
  rw [find, search_any plain down]
  cases ended : (disk.namesAt path).mapM fun name => seen disk (path ++ [name, file]) with
  | error kind =>
    obtain ⟨_, other, _, _, -, -, failed⟩ := mapM_eq_error_iff.1 ended
    rw [Disk.fileName_of_look (seen_eq_error_iff.1 failed)]
    rfl
  | ok found =>
    obtain ⟨⟨i, inside⟩, rfl⟩ := List.mem_iff_get.1 listed
    obtain ⟨same, taken⟩ := List.forall₂_iff_get.1 (mapM_eq_ok_iff.1 ended)
    cases (seen_eq_error_iff.2 long).symm.trans (taken i inside (same ▸ inside))

/-- **Every folder is found** in which something has the name, in ascending order. -/
theorem find_of_fits (plain : isWild file = false) (down : file ≠ "..")
    (fits : ∀ name ∈ disk.namesAt path, disk.look (path ++ [name, file]) ≠ .error .fileName) :
    ∃ found, find disk ["*", file] path = .ok found ∧
      found.Pairwise (fun a b => before a b = true) ∧ ∀ place, place ∈ found ↔
        ∃ name ∈ disk.namesAt path, (∃ node, disk.look (path ++ [name, file]) = .ok (some node)) ∧
          place = path ++ [name, file] := by
  have looked (name : String) : ∃ node, name ∈ disk.namesAt path →
      disk.look (path ++ [name, file]) = .ok node := by
    by_cases listed : name ∈ disk.namesAt path
    · cases looked : disk.look (path ++ [name, file]) with
      | error kind => exact absurd (Disk.fileName_of_look looked ▸ looked) (fits name listed)
      | ok node => exact ⟨node, fun _ => rfl⟩
    · exact ⟨none, fun listed' => absurd listed' listed⟩
  choose nodeOf looked using looked
  have ended : ((disk.namesAt path).mapM fun name => seen disk (path ++ [name, file])) =
      .ok ((disk.namesAt path).map fun name =>
        if (nodeOf name).isSome then [path ++ [name, file]] else []) := by
    rw [mapM_eq_ok_iff, List.forall₂_map_right_iff, List.forall₂_same]
    exact fun name listed => seen_eq_ok_iff.2 ⟨_, looked name listed, rfl⟩
  rw [find, search_any plain down, ended]
  refine ⟨_, rfl, List.pairwise_mergeSort before_trans before_total _,
    fun place => ?_⟩
  rw [List.mem_mergeSort, List.mem_eraseDups, List.mem_flatten]
  constructor
  · intro given
    obtain ⟨_, inside, member⟩ := given
    obtain ⟨name, listed, rfl⟩ := List.mem_map.1 inside
    split at member
    · next stands =>
      obtain ⟨node, found⟩ := Option.isSome_iff_exists.1 stands
      exact ⟨name, listed, ⟨node, found ▸ looked name listed⟩, List.mem_singleton.1 member⟩
    · cases member
  · rintro ⟨name, listed, ⟨node, found⟩, rfl⟩
    have given : nodeOf name = some node := by
      injection (looked name listed).symm.trans found
    exact ⟨_, List.mem_map_of_mem listed, by simp [given]⟩

end Glob

end UpgradeGate
