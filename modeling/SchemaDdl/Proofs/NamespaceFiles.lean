import SchemaDdl.Artifact.Store
import SchemaDdl.Proofs.ResolvedPaths

/-!
# Where the files of a namespace are

A namespace is written into three file names, and the names are joined to the two
directories of a store. Nothing keeps a slash out of a namespace, and with a slash a
file name is a path of several steps. They may lead anywhere: to the file of another
namespace, or out of the directory to a file that is not the program's.

An artifact and its backup differ in their first step only. If further steps lead
back into the directory, they take the first one back, and the two are one file. So a
namespace with a slash never has its files as it should, and this is the whole
condition: without slashes every file is directly in its directory, and namespaces
that differ share none.
-/

namespace SchemaDdl

/-! ## The names of the files -/

namespace Naming

variable {a b space : String}

/-- The names of all files of a namespace. -/
def fileNames (space : String) : List String :=
  [artifactFile space, backupFile space, dumpFile space]

theorem artifactFile_inj (h : artifactFile a = artifactFile b) : a = b := by
  simpa [artifactFile, ← String.toList_inj] using h

theorem backupFile_inj (h : backupFile a = backupFile b) : a = b := by
  simpa [backupFile, artifactFile, ← String.toList_inj] using h

theorem dumpFile_inj (h : dumpFile a = dumpFile b) : a = b := by
  simpa [dumpFile, ← String.toList_inj] using h

theorem artifactFile_ne_backupFile (a b : String) : artifactFile a ≠ backupFile b := by
  simp [artifactFile, backupFile, ← String.toList_inj]

theorem backupFile_ne_dumpFile (a b : String) : backupFile a ≠ dumpFile b := by
  simp [artifactFile, backupFile, dumpFile, ← String.toList_inj]

theorem artifactFile_ne_dumpFile (a b : String) : artifactFile a ≠ dumpFile b := by
  intro h
  have hreverse := congrArg (fun s => s.toList.reverse) h
  simp [artifactFile, dumpFile] at hreverse

theorem nodup_fileNames (space : String) : (fileNames space).Nodup := by
  simp [fileNames, artifactFile_ne_backupFile, artifactFile_ne_dumpFile, backupFile_ne_dumpFile]

theorem eq_of_mem_fileNames {file : String} (ha : file ∈ fileNames a) (hb : file ∈ fileNames b) :
    a = b := by
  simp only [fileNames, List.mem_cons, List.not_mem_nil, or_false] at ha hb
  rcases ha with rfl | rfl | rfl
  · rcases hb with h | h | h
    · exact artifactFile_inj h
    · exact absurd h (artifactFile_ne_backupFile a b)
    · exact absurd h (artifactFile_ne_dumpFile a b)
  · rcases hb with h | h | h
    · exact absurd h.symm (artifactFile_ne_backupFile b a)
    · exact backupFile_inj h
    · exact absurd h (backupFile_ne_dumpFile a b)
  · rcases hb with h | h | h
    · exact absurd h.symm (artifactFile_ne_dumpFile b a)
    · exact absurd h.symm (backupFile_ne_dumpFile b a)
    · exact dumpFile_inj h

end Naming

/-! ## The places of the files -/

namespace Store

variable {s : Store} {origin : List String} {space : String}

/-- Where the files of a namespace are, seen from a directory. -/
def places (s : Store) (origin : List String) (space : String) : List (List String) :=
  [s.artifactPath space, s.backupPath space, s.dumpPath space].map (Path.resolve origin)

/-- A path leads to a name directly in a directory. -/
def LiesIn (origin : List String) (path directory : String) : Prop :=
  ∃ name, Path.resolve origin path = Path.resolve origin directory ++ [name]

/-- The files of a namespace are directly in the directories of the store, and they differ. -/
structure Houses (s : Store) (origin : List String) (space : String) : Prop where
  artifact : LiesIn origin (s.artifactPath space) s.buildDir
  backup : LiesIn origin (s.backupPath space) s.buildDir
  dump : LiesIn origin (s.dumpPath space) s.dumpDir
  nodup : (s.places origin space).Nodup

/-! ### Without a slash -/

theorem resolve_artifactPath (h : '/' ∉ space.toList) : Path.resolve origin (s.artifactPath space) =
    Path.resolve origin s.buildDir ++ [Naming.artifactFile space] :=
  Path.resolve_join_of_notMem (c := 's') (by simp [Naming.artifactFile, h])
    (by simp [Naming.artifactFile]) (by decide)

theorem resolve_backupPath (h : '/' ∉ space.toList) : Path.resolve origin (s.backupPath space) =
    Path.resolve origin s.buildDir ++ [Naming.backupFile space] :=
  Path.resolve_join_of_notMem (c := 's') (by simp [Naming.backupFile, Naming.artifactFile, h])
    (by simp [Naming.backupFile, Naming.artifactFile]) (by decide)

theorem resolve_dumpPath (h : '/' ∉ space.toList) : Path.resolve origin (s.dumpPath space) =
    Path.resolve origin s.dumpDir ++ [Naming.dumpFile space] :=
  Path.resolve_join_of_notMem (c := 's') (by simp [Naming.dumpFile, h])
    (by simp [Naming.dumpFile]) (by decide)

theorem map_getLast?_places (h : '/' ∉ space.toList) :
    (s.places origin space).map List.getLast? = (Naming.fileNames space).map some := by
  simp [places, Naming.fileNames, resolve_artifactPath h, resolve_backupPath h, resolve_dumpPath h]

theorem houses_of_notMem (s : Store) (origin : List String) (h : '/' ∉ space.toList) :
    s.Houses origin space where
  artifact := ⟨_, resolve_artifactPath h⟩
  backup := ⟨_, resolve_backupPath h⟩
  dump := ⟨_, resolve_dumpPath h⟩
  nodup := by
    refine List.Nodup.of_map List.getLast? ?_
    rw [map_getLast?_places h]
    exact (Naming.nodup_fileNames space).map fun _ _ => Option.some.inj

theorem eq_of_mem_places {a b : String} (ha : '/' ∉ a.toList) (hb : '/' ∉ b.toList)
    {place : List String} (hplace : place ∈ s.places origin a) (hplace' : place ∈ s.places origin b) :
    a = b := by
  have hlast := List.mem_map_of_mem (f := List.getLast?) hplace
  have hlast' := List.mem_map_of_mem (f := List.getLast?) hplace'
  rw [map_getLast?_places ha, List.mem_map] at hlast
  rw [map_getLast?_places hb, List.mem_map] at hlast'
  obtain ⟨file, hfile, heq⟩ := hlast
  obtain ⟨file', hfile', heq'⟩ := hlast'
  obtain rfl := Option.some.inj (heq.trans heq'.symm)
  exact Naming.eq_of_mem_fileNames hfile hfile'

/-! ### With a slash -/

/-- If an artifact is directly in its directory all the same, its backup is in the same place. -/
theorem resolve_backupPath_of_slash (hslash : '/' ∈ space.toList)
    (h : LiesIn origin (s.artifactPath space) s.buildDir) :
    Path.resolve origin (s.backupPath space) = Path.resolve origin (s.artifactPath space) := by
  obtain ⟨x, y, hspace, hx⟩ := List.eq_append_cons_of_mem hslash
  obtain ⟨before, last, hsteps, hlast⟩ :=
    Path.exists_steps_append (c := 'y') (y := ".yaml".toList) (by simp) (by simp) (by decide) y
  have hartifact (base : String) :
      Path.resolve origin (Path.join base (Naming.artifactFile space)) =
        (before ++ [last]).foldl Path.down
          (Path.resolve origin base ++ [.ofList ("schema.".toList ++ x)]) := by
    rw [← hsteps]
    exact Path.resolve_join_of_slash (c := 's') (by simp [Naming.artifactFile, hspace])
      (by simp [hx]) (by simp) (by decide)
  have hbackup (base : String) :
      Path.resolve origin (Path.join base (Naming.backupFile space)) =
        (before ++ [last]).foldl Path.down
          (Path.resolve origin base ++ [.ofList ("~schema.".toList ++ x)]) := by
    rw [← hsteps]
    exact Path.resolve_join_of_slash (c := 's')
      (by simp [Naming.backupFile, Naming.artifactFile, hspace]) (by simp [hx]) (by simp)
      (by decide)
  obtain ⟨name, hname⟩ := h
  rw [artifactPath, hartifact] at hname
  rw [backupPath, hbackup, artifactPath, hartifact, hname, Path.foldl_down_forgets hlast hname]

theorem not_mem_of_houses (h : s.Houses origin space) : '/' ∉ space.toList := by
  intro hslash
  have hsame := resolve_backupPath_of_slash hslash h.artifact
  have hnodup := h.nodup
  simp [places, hsame] at hnodup

/-- Two namespaces have their files in the directories, and none in common, exactly if neither of
them has a slash. -/
theorem houses_iff (s : Store) (origin : List String) {a b : String} (hne : a ≠ b) :
    (s.Houses origin a ∧ s.Houses origin b ∧ (s.places origin a).Disjoint (s.places origin b)) ↔
      '/' ∉ a.toList ∧ '/' ∉ b.toList := by
  constructor
  · rintro ⟨ha, hb, -⟩
    exact ⟨not_mem_of_houses ha, not_mem_of_houses hb⟩
  · rintro ⟨ha, hb⟩
    refine ⟨houses_of_notMem s origin ha, houses_of_notMem s origin hb, ?_⟩
    intro place hplace hplace'
    exact hne (eq_of_mem_places ha hb hplace hplace')

/-- One directory under two names, and a namespace that is called like the backup of another. -/
theorem houses_imitating :
    let s : Store := { buildDir := "db/build", dumpDir := "db/dumps/.././build/" }
    ".." ≠ "~schema..." ∧ s.Houses ["shop"] ".." ∧ s.Houses ["shop"] "~schema..." ∧
      (s.places ["shop"] "..").Disjoint (s.places ["shop"] "~schema...") ∧
      s.places ["shop"] ".." =
        [["shop", "db", "build", "schema....yaml"], ["shop", "db", "build", "~schema....yaml"],
          ["shop", "db", "build", "schema....sql"]] := by
  intro s
  have hne : ".." ≠ "~schema..." := by decide
  obtain ⟨hfirst, hsecond, hdisjoint⟩ :=
    (houses_iff s ["shop"] hne).2 ⟨by decide +kernel, by decide +kernel⟩
  exact ⟨hne, hfirst, hsecond, hdisjoint, by decide +kernel⟩

/-- With slashes a namespace has the artifact of another, or a file above the directories, or its
backup in a directory of its own, or its backup in place of its artifact. -/
theorem places_slashes :
    let s : Store := { buildDir := "db/build", dumpDir := "db/generated" }
    (Path.resolve ["shop"] (s.artifactPath "a/../schema.b") =
        Path.resolve ["shop"] (s.artifactPath "b") ∧
      ¬ (s.places ["shop"] "a/../schema.b").Disjoint (s.places ["shop"] "b")) ∧
    (Path.resolve ["shop"] (s.artifactPath "/../../../.lucid-schema") =
        ["shop", Naming.configFile] ∧
      ¬ LiesIn ["shop"] (s.artifactPath "/../../../.lucid-schema") s.buildDir) ∧
    (Path.resolve ["shop"] (s.backupPath "a/b") =
        Path.resolve ["shop"] s.buildDir ++ ["~schema.a", "b.yaml"] ∧
      ¬ LiesIn ["shop"] (s.backupPath "a/b") s.buildDir) ∧
    ¬ (s.places ["shop"] "a/../b").Nodup := by
  intro s
  have hshared : ["shop", "db", "build", "schema.b.yaml"] ∈ s.places ["shop"] "a/../schema.b" ∧
      ["shop", "db", "build", "schema.b.yaml"] ∈ s.places ["shop"] "b" := by decide +kernel
  have houtside : Path.resolve ["shop"] (s.artifactPath "/../../../.lucid-schema") =
      ["shop", Naming.configFile] := by decide +kernel
  have hdeep : Path.resolve ["shop"] (s.backupPath "a/b") =
      Path.resolve ["shop"] s.buildDir ++ ["~schema.a", "b.yaml"] := by decide +kernel
  have hdirectory : Path.resolve ["shop"] s.buildDir = ["shop", "db", "build"] := by decide +kernel
  refine ⟨⟨by decide +kernel, fun h => h hshared.1 hshared.2⟩, ⟨houtside, ?_⟩, ⟨hdeep, ?_⟩,
    by decide +kernel⟩
  · rintro ⟨name, h⟩
    rw [houtside, hdirectory] at h
    simp at h
  · rintro ⟨name, h⟩
    rw [hdeep] at h
    simp at h

end Store

end SchemaDdl
