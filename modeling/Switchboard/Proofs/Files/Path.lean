import Switchboard.FilePath
import Mathlib.Data.List.DropRight

/-!
# The names of a path, and where they lead

The directory that a file is in has the names of the file without the last one (`names_directory`),
and unless its path is empty it starts where the path of the file does (`isAbsolute_directory`). Names
that do not lead up are added to the place that they are followed from (`follow_eq_append`).
-/

namespace Switchboard

namespace FilePath

/-! ## The directory of a file -/

/-- Segments at the end that name nothing add no name. -/
theorem filter_trimmed (segments : List String) :
    (trimmed segments).filter isName = segments.filter isName := by
  show (segments.rdropWhile (!isName ·)).filter isName = _
  induction segments using List.reverseRecOn with
  | nil => rfl
  | append_singleton segments s ih =>
    rw [List.rdropWhile_concat]
    cases hs : isName s with
    | true => simp
    | false => simpa [List.filter_append, hs] using ih

/-- The last of trimmed segments is a name. -/
theorem isName_getLast_trimmed (segments : List String) (h : trimmed segments ≠ []) :
    isName ((trimmed segments).getLast h) = true := by
  have hnot : ¬(!isName ((trimmed segments).getLast h)) = true :=
    List.rdropWhile_last_not (!isName ·) segments h
  simpa using hnot

/-- Without the last segment, trimmed segments lose their last name. -/
theorem filter_dropLast_trimmed (segments : List String) :
    (trimmed segments).dropLast.filter isName = (segments.filter isName).dropLast := by
  rw [← filter_trimmed segments]
  have hlast := isName_getLast_trimmed segments
  generalize trimmed segments = kept at hlast ⊢
  obtain rfl | ⟨above, s, rfl⟩ := List.eq_nil_or_concat kept
  · rfl
  · have hs : isName s = true := by simpa using hlast (by simp)
    simp [List.filter_append, hs]

/-- Trimmed segments are the first ones. -/
theorem trimmed_prefix (segments : List String) : trimmed segments <+: segments :=
  List.rdropWhile_prefix (!isName ·) segments

/-- The directory that a file is in has the names of the file without the last. -/
theorem names_directory (p : FilePath) : p.directory.names = p.names.dropLast := by
  have hroot : ([""] : List String).filter isName = [] := by decide
  unfold directory parent? names
  rw [← filter_dropLast_trimmed p.segments]
  cases trimmed p.segments with
  | nil => exact hroot
  | cons s rest =>
    cases (s :: rest).dropLast with
    | nil => exact hroot
    | cons first above =>
      dsimp only
      split_ifs with hnone hfirst
      -- No segment above the last name is a name, and an empty first one stands for the root.
      · rw [← filter_trimmed (first :: above), List.isEmpty_iff.1 hnone]
        decide
      · have hnames := filter_trimmed (first :: above)
        rw [List.isEmpty_iff.1 hnone, List.filter_nil, eq_comm, List.filter_eq_nil_iff] at hnames
        rw [← filter_trimmed (first :: above), List.isEmpty_iff.1 hnone]
        -- The first segment stands for the directory alone, and it is no name either.
        exact List.filter_eq_nil_iff.2 (by simpa using hnames first List.mem_cons_self)
      · exact filter_trimmed _

/-- A path with more than one segment starts at the root if the first one is empty. -/
theorem isAbsolute_cons_append {p : FilePath} {first : String} {above rest : List String}
    (hp : first :: above ++ rest = p.segments) (hrest : rest ≠ []) :
    p.isAbsolute = (first == "") := by
  have hlength : 1 < p.segments.length := by
    have hpos := List.length_pos_iff.2 hrest
    rw [← hp, List.length_append, List.length_cons]
    omega
  unfold isAbsolute
  rw [decide_eq_true hlength, Bool.and_true, ← hp, List.cons_append, List.head?_cons]
  rfl

/-- Trimmed segments start at the root if there is a first one and it is empty, since the last one
is not. -/
theorem isAbsolute_trimmed {first : String} {above : List String}
    (h : trimmed (first :: above) ≠ []) :
    isAbsolute ⟨trimmed (first :: above)⟩ = (first == "") := by
  obtain ⟨below, hbelow⟩ := trimmed_prefix (first :: above)
  have hlast := isName_getLast_trimmed (first :: above) h
  match hkept : trimmed (first :: above), h with
  -- The one segment that is left is a name, so it is not empty.
  | [name], _ =>
    simp only [hkept, List.getLast_singleton] at hlast
    rw [hkept] at hbelow
    obtain rfl : name = first := by simpa using congrArg List.head? hbelow
    have hname : (name == "") = false := by
      rw [isName, Bool.and_eq_true, bne_iff_ne] at hlast
      simpa using hlast.1
    rw [hname]
    simp [isAbsolute]
  | name :: name' :: names, _ =>
    rw [hkept] at hbelow
    obtain rfl : name = first := by simpa using congrArg List.head? hbelow
    have hsegments : name :: [] ++ name' :: names = FilePath.segments ⟨name :: name' :: names⟩ := rfl
    exact isAbsolute_cons_append hsegments (List.cons_ne_nil name' names)

/-- The directory that a file is in starts at the root if the path of the file does, unless it is
the empty path. -/
theorem isAbsolute_directory {p : FilePath} (hp : p.directory.text ≠ "") :
    p.directory.isAbsolute = p.isAbsolute := by
  obtain ⟨behind, hbehind⟩ := trimmed_prefix p.segments
  unfold directory parent? at hp ⊢
  cases htrimmed : trimmed p.segments with
  | nil =>
    rw [htrimmed] at hp
    exact absurd rfl hp
  | cons s rest =>
    rw [htrimmed] at hp hbehind
    have hlast := List.dropLast_append_getLast (List.cons_ne_nil s rest)
    cases habove : (s :: rest).dropLast with
    | nil =>
      rw [habove] at hp
      exact absurd rfl hp
    | cons first above =>
      rw [habove] at hlast
      generalize (s :: rest).getLast (List.cons_ne_nil s rest) = last at hlast
      have hsegments : first :: above ++ (last :: behind) = p.segments :=
        calc first :: above ++ (last :: behind)
          _ = first :: above ++ [last] ++ behind := List.append_cons _ _ _
          _ = s :: rest ++ behind := by rw [hlast]
          _ = p.segments := hbehind
      rw [isAbsolute_cons_append hsegments (List.cons_ne_nil _ _)]
      dsimp only
      split_ifs with hnone hfirst
      · rw [hfirst]
        decide
      · simp [isAbsolute, hfirst]
      · exact isAbsolute_trimmed (by simpa using hnone)

/-- The empty path has no parent. -/
theorem parent?_of_empty {p : FilePath} (hp : p.text = "") : p.parent? = none := by
  obtain ⟨segments⟩ := p
  match segments, hp with
  | [], _ => rfl
  | [s], hp =>
    obtain rfl : s = "" := hp
    decide
  | s :: s' :: rest, hp =>
    have hlist := congrArg String.toList hp
    simp [text, String.intercalate_cons_cons] at hlist

/-! ## Following names -/

/-- Without a name the way ends where it begins. -/
@[simp]
theorem follow_nil (place : List String) : follow place [] = place := rfl

/-- The first name is followed first. -/
@[simp]
theorem follow_cons (place : List String) (name : String) (names : List String) :
    follow place (name :: names) = follow (next place name) names := rfl

/-- Names lead to a place, and further names from there. -/
theorem follow_append (place names names' : List String) :
    follow place (names ++ names') = follow (follow place names) names' :=
  List.foldl_append

/-- Names that do not lead up are added to the place. -/
theorem follow_eq_append {names : List String} (h : ∀ name ∈ names, name ≠ "..")
    (place : List String) : follow place names = place ++ names := by
  induction names generalizing place with
  | nil => exact (List.append_nil place).symm
  | cons name names ih =>
    have hnext : next place name = place ++ [name] := if_neg (h name List.mem_cons_self)
    rw [follow_cons, hnext, ih fun name' hname => h name' (List.mem_cons_of_mem _ hname)]
    exact List.append_cons place name names |>.symm

/-- No name of a path that does not lead up does. -/
theorem ne_of_leadsUp {p : FilePath} (h : p.leadsUp = false) : ∀ name ∈ p.names, name ≠ ".." := by
  rintro name hname rfl
  have hup : p.leadsUp = true := List.contains_iff_mem.2 (List.mem_of_mem_filter hname)
  simp [hup] at h

end FilePath

end Switchboard
