import Waystation.Config.Loader
import Waystation.Proofs.Config.Assignments
import Waystation.Proofs.Config.Overriding
/-!
Where the variables of a configuration come from. A file of assignments in the working directory counts like
the environment for the nine fields that variables override. The variable that names a further directory
decides which files are read, and is looked up before that file is; it counts in the environment only.
-/
namespace Waystation

namespace FileTree

variable {t t' : FileTree} {here path ns : List String} {name : String} {contents : Bytes}

theorem names_append (p q : String) : names (p ++ "/" ++ q) = names p ++ names q := by
  have hchars : (p ++ "/" ++ q).toList = p.toList ++ '/' :: q.toList := by simp
  rw [names, hchars, List.splitOn_append_cons_self, List.map_append, List.filter_append]
  rfl

/-- One name of a way. -/
theorem walk_cons (t : FileTree) (here ns : List String) (n : String) :
    t.walk here (n :: ns) = if t.isDirectory here
      then t.walk (if n = ".." then here.dropLast else here ++ [n]) ns else none := by
  by_cases hback : n = ".."
  · subst hback
    rw [walk, if_pos rfl]
  · rw [walk, if_neg hback]
    exact hback

/-- A way that ends with a name leads to a place of that name. -/
theorem getLast?_of_walk (hback : name ≠ "..") (h : t.walk here (ns ++ [name]) = some path) :
    path.getLast? = some name := by
  induction ns generalizing here with
  | nil =>
    rw [List.nil_append, walk_cons, if_neg hback] at h
    split at h
    · rw [← Option.some.inj h]
      exact List.getLast?_concat
    · cases h
  | cons n ns ih =>
    rw [List.cons_append, walk_cons] at h
    split at h
    · exact ih h
    · cases h

theorem walk_congr (h : ∀ p, t.isDirectory p = t'.isDirectory p) (here ns : List String) :
    t.walk here ns = t'.walk here ns := by
  induction ns generalizing here with
  | nil => rfl
  | cons n ns ih => rw [walk_cons, walk_cons, h, ih]

/-- The files with one more in the working directory. -/
def withFile (name : String) (contents : Bytes) (t : FileTree) : FileTree := ([name], contents) :: t

theorem isDirectory_withFile (path : List String) :
    (t.withFile name contents).isDirectory path = t.isDirectory path := by
  cases path with
  | nil => rfl
  | cons n path => simp [isDirectory, withFile]

theorem walk_withFile (here ns : List String) :
    (t.withFile name contents).walk here ns = t.walk here ns :=
  walk_congr isDirectory_withFile here ns

theorem file?_eq (t : FileTree) (path : String) : t.file? path
    = if path.startsWith "/" then none else (t.walk [] (names path)).bind (t.lookup ·) := by
  rw [file?]
  split <;> rfl

theorem file?_withFile {path : String} (hroot : path.startsWith "/" = false)
    (hnames : names path = [name]) (hback : name ≠ "..") :
    (t.withFile name contents).file? path = some contents := by
  rw [file?_eq, hroot, hnames, walk_cons, if_neg hback]
  exact List.lookup_cons_self

/-- A file of another name stays what it is. -/
theorem file?_withFile_of_ne {path last : String} (hnames : names path = ns ++ [last])
    (hback : last ≠ "..") (hne : last ≠ name) :
    (t.withFile name contents).file? path = t.file? path := by
  rw [file?_eq, file?_eq, walk_withFile, hnames]
  cases hwalk : t.walk [] (ns ++ [last]) with
  | none => rfl
  | some place =>
    have hlast := getLast?_of_walk hback hwalk
    have hplace : (place == [name]) = false := by
      refine beq_false_of_ne fun heq => hne ?_
      rw [heq] at hlast
      exact (Option.some.inj hlast).symm
    rw [Option.bind_some, Option.bind_some, withFile, List.lookup_cons, hplace]

end FileTree

namespace Loader

variable {files files' : FileTree} {env env' : Environment} {path : String}

theorem names_within (dir file : String) (hfile : FileTree.names file = [file]) :
    ∃ ns, FileTree.names (within dir file) = ns ++ [file] := by
  rw [within]
  split
  next h =>
    rcases h with rfl | h
    · refine ⟨[], ?_⟩
      rw [String.empty_append, hfile]
      rfl
    · rw [← String.endsWith_toSlice] at h
      obtain ⟨front, hfront⟩ := String.Slice.endsWith_string_iff.1 h
      rw [String.copy_toSlice] at hfront
      have hdir : dir = String.ofList front ++ "/" := by
        rw [← String.toList_inj, ← hfront]
        simp
      exact ⟨_, by rw [hdir, FileTree.names_append, hfile]⟩
  next => exact ⟨_, by rw [FileTree.names_append, hfile]⟩

/-- The directories whose files are read. -/
def directories (env : Environment) : List String :=
  "." :: ((env.lookup pathVariable).filter (· ≠ "")).toList

theorem paths_standard (env : Environment) : (standard env).paths
    = (directories env).flatMap fun dir => [within dir baseFile, within dir appFile] := by
  rw [standard, withDefaults, directories]
  cases env.lookup pathVariable with
  | none => rfl
  | some dir =>
    by_cases hdir : dir = ""
    · subst hdir
      rfl
    · have hfilter : (some dir).filter (· ≠ "") = some dir := Option.filter_eq_some_iff.2
        ⟨rfl, decide_eq_true hdir⟩
      rw [hfilter]
      show (if _ then _ else _ : Loader).paths = _
      rw [if_neg hdir]
      rfl

/-- What is read of a configuration is not the file of assignments. -/
theorem file?_of_mem_paths {contents : Bytes} (h : path ∈ (standard env).paths) :
    (files.withFile assignmentsFile contents).file? path = files.file? path := by
  rw [paths_standard] at h
  obtain ⟨dir, -, hdir⟩ := List.mem_flatMap.1 h
  simp only [List.mem_cons, List.not_mem_nil, or_false] at hdir
  rcases hdir with rfl | rfl
  · obtain ⟨ns, hnames⟩ := names_within dir baseFile (by decide)
    exact FileTree.file?_withFile_of_ne hnames (by decide) (by decide)
  · obtain ⟨ns, hnames⟩ := names_within dir appFile (by decide)
    exact FileTree.file?_withFile_of_ne hnames (by decide) (by decide)

theorem readLayers_congr {paths : List String}
    (h : ∀ path ∈ paths, files.file? path = files'.file? path) :
    readLayers files paths = readLayers files' paths := by
  induction paths with
  | nil => rfl
  | cons path paths ih =>
    obtain ⟨hpath, hpaths⟩ := List.forall_mem_cons.1 h
    rw [readLayers, readLayers, hpath, ih hpaths]

/-- Overrides ask for nine variables only. -/
theorem applyOverrides_congr {f g : String → Option String}
    (h : ∀ o : Config.Override, f o.name = g o.name) (c : Config) :
    c.applyOverrides f = c.applyOverrides g := by
  refine Config.Override.eq_of_read (fun o => ?_) rfl rfl
  rw [Config.Override.read_applyOverrides, Config.Override.read_applyOverrides, h]

theorem build_congr {l : Loader} (hlayers : readLayers files l.paths = readLayers files' l.paths)
    (hvars : ∀ o : Config.Override, (fullEnvironment files env).lookup o.name
      = (fullEnvironment files' env').lookup o.name) : l.build files env = l.build files' env' := by
  have hover (c : Config) : (c.applyOverrides fun name => (fullEnvironment files env).lookup name)
      = c.applyOverrides fun name => (fullEnvironment files' env').lookup name :=
    applyOverrides_congr hvars c
  rw [build, build, hlayers]
  simp only [hover]

end Loader

namespace Config

open Loader (assignmentsFile pathVariable)
open Environment (Line)

variable {files : FileTree} {env env' : Environment} {contents : Bytes}

/-- The paths are those that the environment gives, the overrides those that the file of assignments makes
of the environment. -/
theorem load_withFile (hfree : files.file? assignmentsFile = none)
    (hpath : env'.lookup pathVariable = env.lookup pathVariable)
    (hvars : ∀ o : Override, (env.applyFile contents).lookup o.name = env'.lookup o.name) :
    load (files.withFile assignmentsFile contents) env = load files env' := by
  have hstandard : Loader.standard env' = Loader.standard env := by
    rw [Loader.standard, Loader.standard, Loader.withDefaults, Loader.withDefaults, hpath]
  have hfile : (files.withFile assignmentsFile contents).file? assignmentsFile = some contents :=
    FileTree.file?_withFile (by decide +kernel) (by decide) (by decide)
  rw [load, load, hstandard]
  refine Loader.build_congr (Loader.readLayers_congr fun path => Loader.file?_of_mem_paths) fun o => ?_
  rw [Loader.fullEnvironment, Loader.fullEnvironment, hfile, hfree]
  exact hvars o

theorem Override.name_ne_pathVariable (o : Override) : o.name ≠ pathVariable := by
  cases o <;> decide

/-- A file of assignments counts like the environment for each of the nine fields: a variable that is not
set and that a plain file assigns is as good as set, and so are all variables that any file sets together.
Only the path of a further directory is not taken from it, so that a file that assigns it is as good as
none. -/
theorem load_assignments (hfree : files.file? assignmentsFile = none) (env : Environment) :
    (∀ (o : Override) (value : String) (lines : List Line), (∀ l ∈ lines, l.IsPlain) →
      Environment.assignments lines = [(o.name, value)] → env.lookup o.name = none →
      load (files.withFile assignmentsFile (Environment.fileOf lines)) env
        = load files ((o.name, value) :: env))
    ∧ (∀ contents, (env.applyFile contents).lookup pathVariable = env.lookup pathVariable →
      load (files.withFile assignmentsFile contents) env = load files (env.applyFile contents))
    ∧ ∀ (value : String) (lines : List Line), (∀ l ∈ lines, l.IsPlain) →
      Environment.assignments lines = [(pathVariable, value)] →
      load (files.withFile assignmentsFile (Environment.fileOf lines)) env = load files env := by
  refine ⟨fun o value lines hplain hlines hunset => load_withFile hfree ?_ fun o' => ?_,
    fun contents hpath => load_withFile hfree hpath fun o => rfl,
    fun value lines hplain hlines => load_withFile hfree rfl fun o => ?_⟩
  · rw [lookup_cons_if, if_neg (Override.name_ne_pathVariable o).symm]
  · rw [Environment.applyFile_fileOf hplain, hlines, Environment.lookup_setDefaults]
    by_cases hname : o'.name = o.name
    · rw [hname, hunset, lookup_cons_if, lookup_cons_if, if_pos rfl, if_pos rfl]
      rfl
    · rw [lookup_cons_if, lookup_cons_if, if_neg hname, if_neg hname]
      exact Option.or_none
  · rw [Environment.applyFile_fileOf hplain, hlines, Environment.lookup_setDefaults,
      lookup_cons_if, if_neg (Override.name_ne_pathVariable o)]
    exact Option.or_none

/-- A working directory whose configuration lies in a directory of its own. -/
def nestedFiles : FileTree :=
  [(["conf", "config.yaml"], Bytes.ofText ("metadata:\n  process_id: entry\nnats:\n  url: memory\n"
    ++ "  stream: workflow\n  output: entry.out\n  inputs: [exit.out]\n"))]

theorem load_assignments_stream :
    nestedFiles.file? assignmentsFile = none
    ∧ load (nestedFiles.withFile assignmentsFile (Environment.fileOf
        [.remark " of this host", .assignment "NATS_STREAM" "orders", .blank]))
        [(pathVariable, "conf")]
      = load nestedFiles [("NATS_STREAM", "orders"), (pathVariable, "conf")]
    ∧ (load nestedFiles [("NATS_STREAM", "orders"), (pathVariable, "conf")]).toOption.map
      (fun c => c.wiring.stream) = some "orders" := by
  have hfree : nestedFiles.file? assignmentsFile = none := by decide +kernel
  exact ⟨hfree, (load_assignments hfree _).1 .stream "orders" _ (by decide) rfl rfl, by decide +kernel⟩

/-- The directory that the environment names is found, and the one that the file names is not. -/
theorem load_of_path_assigned :
    (Line.assignment pathVariable "conf").IsPlain
    ∧ (load nestedFiles [(pathVariable, "conf")]).toBool = true
    ∧ (load (nestedFiles.withFile assignmentsFile (Environment.fileOf
        [.assignment pathVariable "conf"])) []).toBool = false := by
  decide +kernel

end Config

end Waystation
