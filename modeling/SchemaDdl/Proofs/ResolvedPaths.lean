import SchemaDdl.Files.Tree
import SchemaDdl.Proofs.ScriptShape

/-!
# Where a path leads

`Path.resolve` follows a path from a directory, and needs no files for it: a dot
stays, two dots go up and at the root they stay, and any other step is a name that
is gone down to. A path that leads anywhere in a tree of files leads there
(`FileTree.resolve_of_locate`).

A path that is joined to a directory goes on from where the directory is. Without a
slash it is one step, and leads to that name in the directory. With one it may come
back to the directory, but only by taking its first step back, and then it does not
matter what that step was.
-/

namespace SchemaDdl

/-! ## Pieces of a text -/

namespace Text

theorem pieces_ne_nil (mark : Char) (cs : List Char) : pieces mark cs ≠ [] := by
  cases cs with
  | nil => simp [pieces]
  | cons c r =>
      rw [pieces]
      split
      · simp
      · split
        · simp
        · simp

theorem pieces_append_mark (mark : Char) (x y : List Char) :
    pieces mark (x ++ mark :: y) = pieces mark x ++ pieces mark y := by
  induction x with
  | nil => simp [pieces]
  | cons c r ih =>
      by_cases hc : c = mark
      · simp [pieces, hc, ih]
      · obtain ⟨p, ps, hps⟩ := List.exists_cons_of_ne_nil (pieces_ne_nil mark r)
        simp [pieces, hc, ih, hps]

/-- What has no mark in it stays with the last piece. -/
theorem exists_pieces_append {mark : Char} {y : List Char} (hy : mark ∉ y) (x : List Char) :
    ∃ before last, pieces mark (x ++ y) = before ++ [last ++ y] := by
  induction x with
  | nil => exact ⟨[], [], pieces_of_notMem hy⟩
  | cons c r ih =>
      obtain ⟨before, last, h⟩ := ih
      by_cases hc : c = mark
      · exact ⟨[] :: before, last, by simp [pieces, hc, h]⟩
      · cases before with
        | nil => exact ⟨[], c :: last, by simp [pieces, hc, h]⟩
        | cons p ps => exact ⟨(c :: p) :: ps, last, by simp [pieces, hc, h]⟩

end Text

/-! ## Where a path leads -/

namespace Path

/-- A dot stays, two dots go up, and a name goes down. -/
def down (names : List String) (step : String) : List String :=
  if isIdle step then names else if step = ".." then names.dropLast else names ++ [step]

/-- The names that a path leads to, seen from a directory. Whether anything is there does not
matter. -/
def resolve (origin : List String) (path : String) : List String :=
  (steps path).foldl down (if isAbsolute path then [] else origin)

variable {origin : List String} {base path step : String}

theorem down_of_mem {c : Char} (hc : c ∈ step.toList) (hdot : c ≠ '.') (names : List String) :
    down names step = names ++ [step] := by
  have hne {s : String} (hs : c ∉ s.toList) : step ≠ s := fun h => hs (h ▸ hc)
  have hempty : step ≠ "" := hne (by simp)
  have hone : step ≠ "." := hne (by simpa using hdot)
  have htwo : step ≠ ".." := hne (by simpa using hdot)
  simp [down, isIdle, hempty, hone, htwo]

@[simp] theorem down_empty (names : List String) : down names "" = names := by
  simp [down, isIdle]

@[simp] theorem down_up (names : List String) : down names ".." = names.dropLast := by
  simp [down, isIdle]

theorem isAbsolute_append (h : base ≠ "") (path : String) :
    isAbsolute (base ++ path) = isAbsolute base := by
  obtain ⟨c, r, hbase⟩ := List.exists_cons_of_ne_nil (mt String.toList_eq_nil_iff.1 h)
  rw [isAbsolute, isAbsolute, String.toList_append, hbase]
  rfl

theorem steps_eq_append {path : String} {x y : List Char} (h : path.toList = x ++ '/' :: y) :
    steps path = steps (.ofList x) ++ steps (.ofList y) := by
  simp only [steps, h, String.toList_ofList, Text.pieces_append_mark, List.map_append]

theorem steps_of_notMem (h : '/' ∉ path.toList) : steps path = [path] := by
  rw [steps, Text.pieces_of_notMem h, List.map_singleton, String.ofList_toList]

theorem resolve_empty (origin : List String) : resolve origin "" = origin := by
  rw [resolve, steps_of_notMem (by simp), List.foldl_cons, down_empty]
  rfl

/-- A path that is joined to a directory goes on from where the directory is. -/
theorem resolve_join (h : isAbsolute path = false) :
    resolve origin (join base path) = (steps path).foldl down (resolve origin base) := by
  rw [join, h, if_neg Bool.false_ne_true]
  by_cases hempty : base = ""
  · subst hempty
    rw [if_pos (by simp), String.empty_append, resolve_empty, resolve, h]
    rfl
  by_cases hslash : base.toList.getLast? = some '/'
  · obtain ⟨l, hl⟩ := List.getLast?_eq_some_iff.1 hslash
    have hjoined : (base ++ path).toList = l ++ '/' :: path.toList := by simp [hl]
    have hend : steps (.ofList []) = [""] := rfl
    rw [if_pos (by simp [hslash]), resolve, resolve, isAbsolute_append hempty,
      steps_eq_append hjoined, steps_eq_append hl, hend, String.ofList_toList, List.foldl_append,
      List.foldl_append, List.foldl_cons, down_empty, List.foldl_nil]
  · have hjoined : (base ++ ("/" ++ path)).toList = base.toList ++ '/' :: path.toList := by simp
    rw [if_neg (by simp [hempty, hslash]), String.append_assoc, resolve, resolve,
      isAbsolute_append hempty, steps_eq_append hjoined, String.ofList_toList,
      String.ofList_toList, List.foldl_append]

/-- The first of some steps from a directory is either still there at the end, or it does not matter
what it was. -/
theorem foldl_down_cases (steps names below : List String) :
    (∃ below', ∀ first, steps.foldl down (names ++ first :: below) = names ++ first :: below') ∨
      ∃ names', ∀ first, steps.foldl down (names ++ first :: below) = names' := by
  induction steps generalizing below with
  | nil => exact .inl ⟨below, fun first => rfl⟩
  | cons step r ih =>
      by_cases hup : step = ".."
      · subst hup
        -- Going up takes the first step back if nothing is below it, and then all is forgotten.
        rcases List.eq_nil_or_concat below with rfl | ⟨below, last, rfl⟩
        · exact .inr ⟨r.foldl down names, fun first => by simp⟩
        · have hlast (first : String) :
              (names ++ first :: (below ++ [last])).dropLast = names ++ first :: below := by
            rw [← List.cons_append, ← List.append_assoc, List.dropLast_concat]
          simpa [hlast] using ih below
      · by_cases hidle : isIdle step = true
        · simpa [down, hidle] using ih below
        · simpa [down, hidle, hup] using ih (below ++ [step])

theorem resolve_join_of_notMem {c : Char} (hslash : '/' ∉ path.toList) (hc : c ∈ path.toList)
    (hdot : c ≠ '.') : resolve origin (join base path) = resolve origin base ++ [path] := by
  have habsolute : isAbsolute path = false :=
    decide_eq_false fun h => hslash (List.mem_of_head? h)
  rw [resolve_join habsolute, steps_of_notMem hslash, List.foldl_cons, down_of_mem hc hdot,
    List.foldl_nil]

theorem resolve_join_of_slash {c : Char} {x y : List Char} (hpath : path.toList = x ++ '/' :: y)
    (hx : '/' ∉ x) (hc : c ∈ x) (hdot : c ≠ '.') : resolve origin (join base path) =
      (steps (.ofList y)).foldl down (resolve origin base ++ [.ofList x]) := by
  have habsolute : isAbsolute path = false := by
    obtain ⟨d, r, rfl⟩ := List.exists_cons_of_ne_nil (List.ne_nil_of_mem hc)
    rw [isAbsolute, hpath, List.cons_append, List.head?_cons]
    exact decide_eq_false fun h => hx (Option.some.inj h ▸ List.mem_cons_self)
  have hfirst : steps (.ofList x) = [.ofList x] := steps_of_notMem (by simpa using hx)
  rw [resolve_join habsolute, steps_eq_append hpath, hfirst, List.singleton_append,
    List.foldl_cons, down_of_mem (by simpa using hc) hdot]

/-- The last step of a path that ends in a file extension is a name. -/
theorem exists_steps_append {c : Char} {y : List Char} (hy : '/' ∉ y) (hc : c ∈ y) (hdot : c ≠ '.')
    (x : List Char) : ∃ before last, steps (.ofList (x ++ y)) = before ++ [last] ∧
      ∀ names, down names last = names ++ [last] := by
  obtain ⟨before, last, h⟩ := Text.exists_pieces_append hy x
  refine ⟨before.map .ofList, .ofList (last ++ y), by simp [steps, h], fun names => ?_⟩
  exact down_of_mem (by simp [hc]) hdot names

/-- Steps that end in a name, and lead directly into the directory that they start from, do not
depend on the first of them. -/
theorem foldl_down_forgets {before names : List String} {first last name : String}
    (hlast : ∀ names, down names last = names ++ [last])
    (h : (before ++ [last]).foldl down (names ++ [first]) = names ++ [name]) (first' : String) :
    (before ++ [last]).foldl down (names ++ [first']) = names ++ [name] := by
  rcases foldl_down_cases (before ++ [last]) names [] with ⟨below, hstays⟩ | ⟨names', hforgets⟩
  · -- The first step would be the only one that is left, and so it would be the last.
    have hbelow := (hstays first).symm.trans h
    obtain ⟨-, rfl⟩ : first = name ∧ below = [] := by simpa using hbelow
    have hall (x : String) : x = last := by
      have hx := hstays x
      rw [List.foldl_append, List.foldl_cons, hlast, List.foldl_nil] at hx
      have hlasts := congrArg List.getLast? hx
      simpa using hlasts.symm
    have heq : first' = first := (hall first').trans (hall first).symm
    rw [heq]
    exact h
  · rw [hforgets first', ← hforgets first]
    exact h

end Path

/-! ## In a tree of files -/

namespace FileTree

variable {t : FileTree} {names names' : List String}

theorem down_of_follow {step : String} (h : t.follow names step = .ok names') :
    Path.down names step = names' := by
  unfold follow at h
  split at h
  · cases h
  · cases h
  · unfold FileTree.next at h
    unfold Path.down
    split at h
    · next hidle => rw [if_pos hidle, Except.ok.inj h]
    · next hidle =>
        rw [if_neg hidle]
        split at h
        · next hup => rw [if_pos hup, Except.ok.inj h]
        · next hup =>
            rw [if_neg hup]
            split at h
            · cases h
            · exact Except.ok.inj h

theorem foldl_down_of_foldlM {steps : List String} (h : steps.foldlM t.follow names = .ok names') :
    steps.foldl Path.down names = names' := by
  induction steps generalizing names with
  | nil => exact Except.ok.inj h
  | cons step r ih =>
      rw [List.foldlM_cons] at h
      cases hstep : t.follow names step with
      | error e => rw [hstep] at h; cases h
      | ok middle =>
          rw [hstep] at h
          rw [List.foldl_cons, down_of_follow hstep]
          exact ih h

/-- Where a path leads in a tree, if it leads anywhere, is where it is resolved to. -/
theorem resolve_of_locate {path : String} (h : t.locate path = .ok names) :
    Path.resolve t.directory path = names := by
  unfold locate at h
  cases hcheck : check path with
  | error e => rw [hcheck] at h; cases h
  | ok u =>
      rw [hcheck] at h
      by_cases hempty : path = ""
      · rw [if_pos hempty] at h; cases h
      · rw [if_neg hempty] at h
        exact foldl_down_of_foldlM h

end FileTree

end SchemaDdl
