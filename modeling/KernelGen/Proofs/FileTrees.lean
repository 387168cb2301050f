import KernelGen.FileTree
import Mathlib

/-!
# What operations on file trees change

A tree is seen through `entry?`. Making directories only adds entries, and writing a file replaces
no directory, so every location that a path led to is still there afterwards and the path still
leads to it.

* `Path.lastPiece`: what stands behind the last slash of a path.
* `FileTree.WellFormed`: everything stands in a directory.
* `FileTree.Writes`: how a tree may change while files are written at some locations.
* `FileTree.Writes.resolve`: a path that leads somewhere still leads there.
* `FileTree.eq_append_lastPiece`: a path leads to a file only under its last piece.
* `FileTree.writes_makeAllDirectories`, `FileTree.of_write`: what the operations do.
-/

namespace KernelGen

/-! ## The last piece of a path -/

namespace Text

/-- A text without separators is one piece. -/
theorem split_of_notMem {sep : Char} {cs : List Char} (h : sep ∉ cs) : split sep cs = [cs] := by
  induction cs with
  | nil => rfl
  | cons c cs ih =>
    rw [List.mem_cons, not_or] at h
    rw [split, if_neg (Ne.symm h.1), ih h.2]

/-- There is always a piece, and be it empty. -/
theorem split_ne_nil (sep : Char) (cs : List Char) : split sep cs ≠ [] := by
  cases cs with
  | nil => simp [split]
  | cons c cs =>
    rw [split]
    split
    · simp
    · split <;> simp

/-- The pieces around a separator are those of the two sides. -/
theorem split_append_cons (sep : Char) (cs ds : List Char) :
    split sep (cs ++ sep :: ds) = split sep cs ++ split sep ds := by
  induction cs with
  | nil => simp [split]
  | cons c cs ih =>
    rw [List.cons_append, split, split]
    split
    · rw [ih, List.cons_append]
    · cases hcs : split sep cs with
      | nil => exact absurd hcs (split_ne_nil sep cs)
      | cons piece pieces => rw [ih, hcs]; rfl

end Text

namespace Path

/-- What stands behind the last slash of a path. -/
def lastPiece (p : String) : List Char :=
  (p.toList.reverse.takeWhile (· != '/')).reverse

/-- A path without slashes is its own last piece. -/
theorem lastPiece_of_notMem {p : String} (h : '/' ∉ p.toList) : lastPiece p = p.toList := by
  rw [lastPiece, List.takeWhile_eq_self_iff.2, List.reverse_reverse]
  intro c hc
  rw [List.mem_reverse] at hc
  exact bne_iff_ne.2 fun heq => h (heq ▸ hc)

/-- What stands before a slash does not change the last piece. -/
theorem lastPiece_append (front p : String) : lastPiece (front ++ "/" ++ p) = lastPiece p := by
  have hlist : (front ++ "/" ++ p).toList.reverse =
      p.toList.reverse ++ '/' :: front.toList.reverse := by
    simp
  rw [lastPiece, lastPiece, hlist, List.takeWhile_append]
  split
  · next hall =>
    rw [List.takeWhile_cons_of_neg (by simp), List.append_nil,
      (List.takeWhile_sublist _).eq_of_length hall]
  · rfl

/-- A path that is seen from a directory keeps its last piece. -/
theorem lastPiece_join (dir p : String) : lastPiece (join dir p) = lastPiece p := by
  unfold join
  split
  · rfl
  · split
    · next hslash =>
      obtain ⟨front, hfront⟩ := List.getLast?_eq_some_iff.1 (beq_iff_eq.1 hslash)
      have hdir : dir = String.ofList front ++ "/" := by
        rw [← String.toList_inj, hfront]
        simp
      rw [hdir, lastPiece_append]
    · exact lastPiece_append dir p

/-- The last piece of a path is no longer than the path. -/
theorem length_lastPiece_le (p : String) : (lastPiece p).length ≤ p.length := by
  have hle := (List.takeWhile_sublist (· != '/') (l := p.toList.reverse)).length_le
  rw [List.length_reverse] at hle
  rwa [lastPiece, List.length_reverse, ← String.length_toList]

/-- The last piece is the last of the pieces. -/
theorem exists_pieces_eq (p : String) : ∃ before, pieces p = before ++ [lastPiece p] := by
  by_cases hslash : '/' ∈ p.toList
  · -- The path is cut at its last slash, which is the first one from behind.
    obtain ⟨back, front, hsplit, hback⟩ :=
      List.eq_append_cons_of_mem (List.mem_reverse.2 hslash)
    have hlist : p.toList = front.reverse ++ '/' :: back.reverse := by
      rw [← List.reverse_reverse p.toList, hsplit]
      simp
    have hclean : '/' ∉ back.reverse := by rwa [List.mem_reverse]
    have hlast : lastPiece p = back.reverse := by
      have hp : p = String.ofList front.reverse ++ "/" ++ String.ofList back.reverse := by
        rw [← String.toList_inj, hlist]
        simp
      rw [hp, lastPiece_append, lastPiece_of_notMem (by rwa [String.toList_ofList]),
        String.toList_ofList]
    refine ⟨Text.split '/' front.reverse, ?_⟩
    rw [pieces, hlist, Text.split_append_cons, hlast, Text.split_of_notMem hclean]
  · refine ⟨[], ?_⟩
    rw [pieces, Text.split_of_notMem hslash, lastPiece_of_notMem hslash, List.nil_append]

end Path

namespace FileTree

variable {t t' t'' : FileTree} {l k : Location} {ls ls' : List Location}

/-! ## Entries -/

/-- Without the entries of a location, all other locations have the same entry as before. -/
theorem lookup_filter_ne {entries : List (Location × Entry)} :
    (entries.filter (·.1 != l)).lookup k = if k = l then none else entries.lookup k := by
  induction entries with
  | nil => simp
  | cons entry entries ih =>
    obtain ⟨m, e⟩ := entry
    by_cases hml : m = l
    · rw [List.filter_cons_of_neg (by simp [hml]), ih]
      split_ifs with hkl
      · rfl
      · rw [List.lookup_cons, beq_eq_false_iff_ne.2 (by rwa [hml])]
    · rw [List.filter_cons_of_pos (by simpa using hml), List.lookup_cons, List.lookup_cons, ih]
      by_cases hkm : k = m
      · simp [hkm, hml]
      · rw [beq_eq_false_iff_ne.2 hkm]

/-- What stands at a location after an entry was put somewhere below the root. -/
theorem entry?_set (hl : l ≠ []) (e : Entry) :
    entry? (t.set l e) k = if k = l then some e else t.entry? k := by
  by_cases hk : k = []
  · rw [if_neg (by rw [hk]; exact hl.symm), hk]
    rfl
  · have hnil : k.isEmpty = false := by simpa using hk
    unfold entry?
    rw [hnil, set]
    simp only [Bool.false_eq_true, if_false, List.lookup_append, lookup_filter_ne]
    by_cases hkl : k = l
    · simp [hkl]
    · rw [if_neg hkl, if_neg hkl, List.lookup_cons, beq_eq_false_iff_ne.2 hkl]
      exact Option.or_none

/-- A location is a directory exactly if it has the entry of one. -/
theorem isDirectoryAt_iff : t.isDirectoryAt l = true ↔ t.entry? l = some .directory := by
  rw [isDirectoryAt, beq_iff_eq]

/-- Everything stands in a directory, and so does whoever works in the tree. -/
structure WellFormed (t : FileTree) : Prop where
  /-- What is above an entry is a directory. -/
  parent : ∀ l name, (t.entry? (l ++ [name])).isSome = true → t.isDirectoryAt l = true
  /-- The working directory is a directory. -/
  workingDir : t.isDirectoryAt t.workingDir = true

/-- How a tree may change while files are written at some locations: all else that can happen is
that directories are made. -/
structure Writes (ls : List Location) (t t' : FileTree) : Prop where
  /-- The working directory stays. -/
  workingDir : t'.workingDir = t.workingDir
  /-- Directories stay. -/
  directory : ∀ l, t.isDirectoryAt l = true → t'.isDirectoryAt l = true
  /-- At other locations there are the same files. -/
  file : ∀ l, l ∉ ls → ∀ c, t'.entry? l = some (.file c) ↔ t.entry? l = some (.file c)
  /-- There are files at the locations. -/
  written : ∀ l ∈ ls, ∃ c, t'.entry? l = some (.file c)
  /-- Everything still stands in a directory. -/
  wellFormed : t.WellFormed → t'.WellFormed

namespace Writes

/-- Nothing is written if nothing is done. -/
theorem refl (t : FileTree) : Writes [] t t :=
  ⟨rfl, fun _ h => h, fun _ _ _ => .rfl, by simp, fun h => h⟩

/-- A file that is there may count as written. -/
theorem keep {c : List UInt8} (h : t.entry? l = some (.file c)) : Writes [l] t t where
  __ := refl t
  file _ _ _ := .rfl
  written k hk := by
    obtain rfl := List.mem_singleton.1 hk
    exact ⟨c, h⟩

/-- Two operations one after the other write what each of them writes. -/
theorem trans (h : Writes ls t t') (h' : Writes ls' t' t'') : Writes (ls ++ ls') t t'' where
  workingDir := h'.workingDir.trans h.workingDir
  directory l hl := h'.directory l (h.directory l hl)
  file l hl c := by
    rw [List.mem_append, not_or] at hl
    exact (h'.file l hl.2 c).trans (h.file l hl.1 c)
  written l hl := by
    by_cases hlast : l ∈ ls'
    · exact h'.written l hlast
    · obtain ⟨c, hc⟩ := h.written l ((List.mem_append.1 hl).resolve_right hlast)
      exact ⟨c, (h'.file l hlast c).2 hc⟩
  wellFormed hwf := h'.wellFormed (h.wellFormed hwf)

/-- No entry gets lost. -/
theorem isSome (h : Writes ls t t') (hl : (t.entry? l).isSome = true) :
    (t'.entry? l).isSome = true := by
  obtain ⟨e, he⟩ := Option.isSome_iff_exists.1 hl
  cases e with
  | directory => rw [isDirectoryAt_iff.1 (h.directory l (isDirectoryAt_iff.2 he))]; rfl
  | file c =>
    by_cases hmem : l ∈ ls
    · obtain ⟨c', hc'⟩ := h.written l hmem
      rw [hc']
      rfl
    · rw [(h.file l hmem c).2 he]
      rfl

end Writes

/-- An entry that is put into a directory, in place of nothing or of one file by another, makes
such a change. -/
theorem writes_set {dir : Location} {name : String} {e : Entry} (hdir : t.isDirectoryAt dir = true)
    (hls : (∃ c, ls = [dir ++ [name]] ∧ e = .file c ∧ t.isDirectoryAt (dir ++ [name]) = false) ∨
      ls = [] ∧ e = .directory ∧ t.entry? (dir ++ [name]) = none) :
    Writes ls t (t.set (dir ++ [name]) e) := by
  have hne : dir ++ [name] ≠ [] := by simp
  have hnot : t.isDirectoryAt (dir ++ [name]) = false := by
    rcases hls with ⟨c, -, -, hnot⟩ | ⟨-, -, hnone⟩
    · exact hnot
    · rw [isDirectoryAt, hnone]
      rfl
  have hkeeps (l : Location) (hl : t.isDirectoryAt l = true) :
      (t.set (dir ++ [name]) e).isDirectoryAt l = true := by
    rw [isDirectoryAt_iff, entry?_set hne, if_neg, isDirectoryAt_iff.1 hl]
    rintro rfl
    rw [hnot] at hl
    cases hl
  refine ⟨rfl, hkeeps, ?_, ?_, fun hwf => ⟨?_, hkeeps _ hwf.workingDir⟩⟩
  · intro l hl c
    rw [entry?_set hne]
    split_ifs with heq
    · rcases hls with ⟨c', rfl, -, -⟩ | ⟨rfl, rfl, hnone⟩
      · exact absurd (List.mem_singleton.2 heq) hl
      · simp [heq, hnone]
    · rfl
  · intro l hl
    rcases hls with ⟨c, rfl, rfl, -⟩ | ⟨rfl, -, -⟩
    · obtain rfl := List.mem_singleton.1 hl
      exact ⟨c, by rw [entry?_set hne, if_pos rfl]⟩
    · cases hl
  · intro l name' hsome
    rw [entry?_set hne] at hsome
    split_ifs at hsome with heq
    · rw [(List.append_inj' heq rfl).1]
      exact hkeeps dir hdir
    · exact hkeeps l (hwf.parent l name' hsome)

/-! ## Walking along a path -/

/-- A step leads from a directory to itself, to the directory above it, or to an entry in it. -/
theorem step_eq_ok_iff {piece : String} :
    t.step l piece = .ok k ↔ t.isDirectoryAt l = true ∧
      (piece = "." ∧ k = l ∨ piece = ".." ∧ k = l.dropLast ∨
        piece ≠ "." ∧ piece ≠ ".." ∧ piece.utf8ByteSize ≤ maxNameSize ∧
          (t.entry? (l ++ [piece])).isSome = true ∧ k = l ++ [piece]) := by
  unfold step
  by_cases hdir : t.isDirectoryAt l = true
  · rw [if_neg (by simp [hdir])]
    split_ifs with hdot hdots hsize hsome
    · subst hdot
      simpa [hdir] using eq_comm
    · subst hdots
      simpa [hdir] using eq_comm
    · simp [hdot, hdots, hsize]
    · simpa [hdir, hdot, hdots, hsome, Nat.le_of_not_lt hsize] using eq_comm
    · simp [hdot, hdots, hsome]
  · simp [hdir]

/-- A walk along two lists of pieces is a walk along the first and then along the second. -/
theorem walk_append_eq_ok_iff {ps qs : List String} :
    t.walk l (ps ++ qs) = .ok k ↔ ∃ m, t.walk l ps = .ok m ∧ t.walk m qs = .ok k := by
  induction ps generalizing l with
  | nil => simp [walk]
  | cons piece ps ih =>
    rw [List.cons_append, walk, walk]
    cases t.step l piece with
    | error e => simp
    | ok m => exact ih

/-- A walk along one piece is a step. -/
theorem walk_singleton (t : FileTree) (l : Location) (piece : String) :
    t.walk l [piece] = t.step l piece := by
  rw [walk]
  cases t.step l piece <;> rfl

namespace Writes

/-- Steps lead to the same locations after files have been written. -/
theorem step (h : Writes ls t t') {piece : String} (hstep : t.step l piece = .ok k) :
    t'.step l piece = .ok k := by
  rw [step_eq_ok_iff] at hstep ⊢
  obtain ⟨hdir, hcases⟩ := hstep
  refine ⟨h.directory l hdir, hcases.imp_right fun hcases => hcases.imp_right ?_⟩
  rintro ⟨hdot, hdots, hsize, hsome, hk⟩
  exact ⟨hdot, hdots, hsize, h.isSome hsome, hk⟩

/-- Walks lead to the same locations after files have been written. -/
theorem walk (h : Writes ls t t') {ps : List String} (hwalk : t.walk l ps = .ok k) :
    t'.walk l ps = .ok k := by
  induction ps generalizing l with
  | nil => exact hwalk
  | cons piece ps ih =>
    rw [FileTree.walk] at hwalk ⊢
    cases hstep : t.step l piece with
    | error e => simp [hstep] at hwalk
    | ok m =>
      rw [hstep] at hwalk
      rw [h.step hstep]
      exact ih hwalk

/-- A path that leads somewhere still leads there. -/
theorem resolve (h : Writes ls t t') {path : String} (hpath : t.resolve path = .ok l) :
    t'.resolve path = .ok l := by
  unfold FileTree.resolve at hpath ⊢
  split at hpath
  · cases hpath
  · have horigin : t'.origin path = t.origin path := by
      rw [origin, origin, h.workingDir]
    rw [horigin]
    exact h.walk hpath

end Writes

/-- If a path without a slash at its end has pieces, then the last of them is its last piece. -/
theorem eq_lastPiece {path name : String} {before : List String} (hslash : endsInSlash path = false)
    (hpieces : pieces path = before ++ [name]) : name = String.ofList (Path.lastPiece path) := by
  obtain ⟨front, hfront⟩ := Path.exists_pieces_eq path
  -- Nothing stands behind the last slash only if the path is empty or ends there.
  have hne : Path.lastPiece path ≠ [] := by
    intro hnil
    rw [Path.lastPiece, List.reverse_eq_nil_iff] at hnil
    cases hlist : path.toList.reverse with
    | nil =>
      have hempty : path.toList = [] := List.reverse_eq_nil_iff.1 hlist
      simp [pieces, Path.pieces, hempty, Text.split] at hpieces
    | cons c cs =>
      rw [hlist] at hnil
      have hc : c = '/' := by
        by_contra hc
        rw [List.takeWhile_cons_of_pos (by simpa using hc)] at hnil
        cases hnil
      have hlast : path.toList.getLast? = some '/' := by
        rw [← List.reverse_reverse path.toList, hlist, List.getLast?_reverse, List.head?_cons, hc]
      simp [endsInSlash, hlast] at hslash
  rw [pieces, hfront, List.filter_append, List.map_append,
    List.filter_cons_of_pos (by simpa using hne), List.filter_nil] at hpieces
  exact (List.cons.inj (List.append_inj' hpieces rfl).2).1.symm

/-- A path leads to a file only under its last piece. -/
theorem eq_append_lastPiece (hwf : t.WellFormed) {path : String} {c : List UInt8}
    (hpath : t.resolve path = .ok l) (hfile : t.entry? l = some (.file c)) :
    ∃ dir, l = dir ++ [String.ofList (Path.lastPiece path)] := by
  have hnot : t.isDirectoryAt l = false := by
    rw [isDirectoryAt, hfile]
    rfl
  unfold resolve at hpath
  split at hpath
  · cases hpath
  · cases hslash : endsInSlash path with
    | true =>
      -- A slash at the end asks for a directory.
      rw [hslash, if_pos rfl, walk_append_eq_ok_iff] at hpath
      obtain ⟨m, -, hlast⟩ := hpath
      rw [walk_singleton, step_eq_ok_iff] at hlast
      obtain rfl : l = m := by simpa using hlast.2
      rw [hnot] at hlast
      cases hlast.1
    | false =>
      rw [hslash, if_neg (by simp), List.append_nil] at hpath
      rcases List.eq_nil_or_concat (pieces path) with hnil | ⟨before, name, hpieces⟩
      · -- The path leads to where it starts, and that is a directory.
        rw [hnil, walk] at hpath
        obtain rfl := Except.ok.inj hpath
        unfold origin at hnot
        split at hnot
        · cases hnot
        · rw [hwf.workingDir] at hnot
          cases hnot
      · rw [List.concat_eq_append] at hpieces
        rw [hpieces, walk_append_eq_ok_iff] at hpath
        obtain ⟨m, -, hlast⟩ := hpath
        rw [walk_singleton, step_eq_ok_iff] at hlast
        obtain ⟨hdir, ⟨-, rfl⟩ | ⟨-, rfl⟩ | ⟨-, -, -, -, rfl⟩⟩ := hlast
        · rw [hnot] at hdir
          cases hdir
        · -- Above a directory there is a directory.
          rcases List.eq_nil_or_concat m with rfl | ⟨above, last, rfl⟩
          · cases hnot
          · rw [List.concat_eq_append] at hdir hnot
            rw [List.dropLast_concat] at hnot
            rw [hwf.parent above last (by rw [isDirectoryAt_iff.1 hdir]; rfl)] at hnot
            cases hnot
        · exact ⟨m, by rw [eq_lastPiece hslash hpieces]⟩

/-! ## Making directories and writing files -/

/-- A place under a directory is found by the pieces before the last one, which is its name. -/
theorem of_place {path name : String} {dir : Location}
    (h : t.place path = .ok (.under dir name)) :
    pathFault? path = none ∧ t.isDirectoryAt dir = true ∧ name ≠ "." ∧ name ≠ ".." ∧
      ∃ before, pieces path = before ++ [name] ∧ t.walk (t.origin path) before = .ok dir := by
  unfold place at h
  split at h
  · cases h
  · next hfault =>
    split at h
    · cases h
    · next last before hreverse =>
      have hpieces : pieces path = before.reverse ++ [last] := by
        rw [← List.reverse_reverse (pieces path), hreverse, List.reverse_cons]
      split at h
      · cases h
      · next found hwalk =>
        split_ifs at h with hdir hdot hdots
        · cases h
        · cases h
        · obtain ⟨rfl, rfl⟩ := Place.under.inj (Except.ok.inj h)
          exact ⟨hfault, by simpa using hdir, hdot, hdots, before.reverse, hpieces, hwalk⟩

/-- Making a directory writes no file. -/
theorem writes_makeDirectory {path : String} (h : t.makeDirectory path = .ok t') :
    Writes [] t t' := by
  unfold makeDirectory at h
  split at h
  · cases h
  · cases h
  · next dir name hplace =>
    split_ifs at h with hsize hsome
    obtain rfl := Except.ok.inj h
    obtain ⟨-, hdir, -⟩ := of_place hplace
    exact writes_set hdir (.inr ⟨rfl, rfl, by simpa using hsome⟩)

/-- What is made before a failure stays, and nothing else changes. -/
theorem writes_makeDirectories (t : FileTree) (paths : List String) :
    Writes [] t (t.makeDirectories paths).2 := by
  induction paths generalizing t with
  | nil => exact .refl t
  | cons path above ih =>
    rw [makeDirectories]
    split
    · next t₁ hmade => exact writes_makeDirectory hmade
    · -- The directories above are made first.
      have habove := ih t
      split
      · next t₁ hfail => rwa [hfail] at habove
      · next t₁ hok =>
        rw [hok] at habove
        split
        · next t₂ hmade => exact habove.trans (writes_makeDirectory hmade)
        · split <;> exact habove
    · split <;> exact .refl t

/-- Making a chain of directories writes no file. -/
theorem writes_makeAllDirectories (t : FileTree) (path : String) :
    Writes [] t (t.makeAllDirectories path).2 :=
  writes_makeDirectories t _

/-- A file that is written is found under its path, and no other file changes. -/
theorem of_write {path : String} {c : List UInt8} (h : t.write path c = .ok t') :
    ∃ dir, let l := dir ++ [String.ofList (Path.lastPiece path)]
      Writes [l] t t' ∧ t'.resolve path = .ok l ∧ t'.entry? l = some (.file c) := by
  unfold write at h
  split at h
  · cases h
  · cases h
  · next dir name hplace =>
    split_ifs at h with hslash hsize hnot
    obtain rfl := Except.ok.inj h
    obtain ⟨hfault, hdir, hdot, hdots, before, hpieces, hwalk⟩ := of_place hplace
    have hslash : endsInSlash path = false := by simpa using hslash
    have hwrites := writes_set (e := .file c) hdir (.inl ⟨c, rfl, rfl, by simpa using hnot⟩)
    have hentry : entry? (t.set (dir ++ [name]) (.file c)) (dir ++ [name]) = some (.file c) := by
      rw [entry?_set (by simp), if_pos rfl]
    refine ⟨dir, ?_⟩
    rw [← eq_lastPiece hslash hpieces]
    refine ⟨hwrites, ?_, hentry⟩
    -- The walk to the directory is as before, and the last step finds the new file.
    unfold resolve
    rw [hfault, hslash, if_neg (by simp), List.append_nil, hpieces]
    refine walk_append_eq_ok_iff.2 ⟨dir, hwrites.walk hwalk, ?_⟩
    rw [walk_singleton, step_eq_ok_iff]
    exact ⟨hwrites.directory dir hdir, .inr (.inr ⟨hdot, hdots, Nat.le_of_not_lt hsize,
      by rw [hentry]; rfl, rfl⟩)⟩

/-- A path is read exactly if it leads to a file, and the contents are those of the file. -/
theorem read_eq_ok_iff {path : String} {c : List UInt8} :
    t.read path = .ok c ↔ ∃ l, t.resolve path = .ok l ∧ t.entry? l = some (.file c) := by
  unfold read
  cases t.resolve path with
  | error e => simp
  | ok l =>
    cases hentry : t.entry? l with
    | none => simp [hentry]
    | some e => cases e <;> simp [hentry]

end FileTree

end KernelGen
