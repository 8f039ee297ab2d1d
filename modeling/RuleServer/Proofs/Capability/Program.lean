import Mathlib
import RuleServer.Capability.Compiler
import RuleServer.Proofs.Host.Places

/-!
The program of a compiler: which one is found when the server starts, and which one is started for a
document. They are one file where the path that was found is absolute, and that is where the command
is so or stands in an absolute directory of the search path. A relative path is looked up again from
the directory of the document.
-/

namespace RuleServer

namespace Files

theorem mem_of_firstProgram {files : Files} {fault : IoFault} {paths : List Path} {p : Path}
    (h : files.firstProgram fault paths = .ok p) :
    p ∈ paths ∧ files.checkProgram p = .ok () := by
  induction paths generalizing fault with
  | nil => simp [firstProgram] at h
  | cons path paths ih =>
    rw [firstProgram] at h
    cases hcheck : files.checkProgram path with
    | ok done =>
      obtain rfl : path = p := by simpa [hcheck] using h
      exact ⟨by simp, hcheck⟩
    | error next =>
      by_cases hover : next.isPassedOver
      · obtain ⟨hmem, hp⟩ := ih (by simpa [hcheck, hover] using h)
        exact ⟨List.mem_cons_of_mem path hmem, hp⟩
      · simp [hcheck, hover] at h

theorem firstProgram_singleton {files : Files} {fault : IoFault} {path p : Path} :
    files.firstProgram fault [path] = .ok p ↔ p = path ∧ files.checkProgram path = .ok () := by
  constructor
  · intro h
    obtain ⟨hmem, hp⟩ := mem_of_firstProgram h
    obtain rfl := List.mem_singleton.mp hmem
    exact ⟨rfl, hp⟩
  · rintro ⟨rfl, hp⟩
    simp [firstProgram, hp]

end Files

namespace Path

theorem candidates_of_slash {program : Path} (h : slash ∈ program.bytes)
    (searchPath : Option String) : program.candidates searchPath = [program] := by
  simp [candidates, h]

end Path

namespace Host

theorem started_eq_ok_iff {h : Host} {i : Invocation} {files : Files} {path : Path} :
    h.started i = .ok (files, path) ↔
      (∀ text ∈ textsOf i, '\x00' ∉ text.toList) ∧ h.filesIn i.directory = .ok files ∧
        files.firstProgram .noSuchFile
          (i.program.candidates ((h.environmentWith i.environment).lookup "PATH")) = .ok path := by
  unfold started
  by_cases hnul : (textsOf i).any fun text => text.toList.contains '\x00'
  · have hbad : ¬ ∀ text ∈ textsOf i, '\x00' ∉ text.toList := by simpa using hnul
    rw [if_pos hnul]
    simp only [hbad, false_and, iff_false]
    intro hthrow
    cases hthrow
  · have hgood : ∀ text ∈ textsOf i, '\x00' ∉ text.toList := by simpa using hnul
    rw [if_neg hnul, bind_eq_ok_iff]
    constructor
    · rintro ⟨found, hfiles, hrest⟩
      obtain ⟨program, hprogram, hpair⟩ := bind_eq_ok_iff.mp hrest
      obtain ⟨rfl, rfl⟩ := Prod.mk.inj (Except.ok.inj hpair)
      exact ⟨hgood, hfiles, hprogram⟩
    · rintro ⟨-, hfiles, hprogram⟩
      exact ⟨files, hfiles, bind_eq_ok_iff.mpr ⟨path, hprogram, rfl⟩⟩

/-- The same host with more files. -/
def Gains (h h' : Host) : Prop :=
  ∃ files, h' = { h with files } ∧ h.files.Extends files ∧ files.current = h.files.current ∧
    files.links = h.files.links

theorem Gains.trans {h h' h'' : Host} (hfirst : h.Gains h') (hsecond : h'.Gains h'') :
    h.Gains h'' := by
  obtain ⟨files, rfl, hextends, hcurrent, hlinks⟩ := hfirst
  obtain ⟨files', rfl, hextends', hcurrent', hlinks'⟩ := hsecond
  exact ⟨files', rfl, hextends.trans hextends', hcurrent'.trans hcurrent, hlinks'.trans hlinks⟩

theorem gains_make {h h' : Host} {directory : Path} {name : String} {e : Entry}
    (hmake : h.make directory name e = .ok h') : h.Gains h' := by
  unfold make at hmake
  split at hmake
  · cases hmake
  · cases hfiles : h.files.make directory name e with
    | error fault => simp [hfiles, Except.map] at hmake
    | ok files =>
      obtain rfl : { h with files } = h' := by simpa [hfiles, Except.map] using hmake
      exact ⟨files, rfl, Files.extends_make hfiles⟩

theorem gains_makeFresh {h made : Host} {directory path : Path} {names : List String}
    (hmake : h.makeFresh directory names = .ok (path, made)) : h.Gains made := by
  induction names with
  | nil => simp [makeFresh] at hmake
  | cons name names ih =>
    rw [makeFresh] at hmake
    split at hmake
    · rename_i hmade
      obtain ⟨-, rfl⟩ := Prod.mk.inj (Except.ok.inj hmake)
      exact gains_make hmade
    · exact ih hmake
    · cases hmake

end Host

namespace CompilerConfig

/-- The command is absolute; or it is a name, and the first directory of the search path that has a
file of this name is absolute. -/
def ResolvesAbsolute (c : CompilerConfig) (files : Files) (searchPath : Option Bytes) : Prop :=
  (Path.ofText c.command).isAbsolute ∨
    (Path.ofText c.command).components.length ≤ 1 ∧
      ∃ list dir, searchPath = some list ∧
        (Path.searchDirectories list).find?
          (fun d => files.isFile (d.join (.ofText c.command))) = some dir ∧ dir.isAbsolute

/-- What a command can come to: a path with several components is the program if it is a file; a
name is looked for, and the first directory that has it counts. -/
theorem resolveIn?_eq_some_iff {c : CompilerConfig} {files : Files} {searchPath : Option Bytes}
    {program : Path} :
    c.resolveIn? files searchPath = some program ↔
      (1 < (Path.ofText c.command).components.length ∧ files.isFile (.ofText c.command) ∧
        program = .ofText c.command) ∨
      ((Path.ofText c.command).components.length ≤ 1 ∧ ∃ list dir, searchPath = some list ∧
        (Path.searchDirectories list).find?
          (fun d => files.isFile (d.join (.ofText c.command))) = some dir ∧
        program = dir.join (.ofText c.command)) := by
  unfold resolveIn?
  by_cases hparts : 1 < (Path.ofText c.command).components.length
  · simp only [hparts, if_true, Nat.not_le.mpr hparts, true_and, false_and, or_false]
    by_cases hfile : files.isFile (.ofText c.command) <;> simp [hfile, eq_comm]
  · simp only [hparts, if_false, Nat.le_of_not_lt hparts, true_and, false_and, false_or]
    rw [Option.bind_eq_bind, Option.bind_eq_some_iff]
    refine exists_congr fun list => ?_
    rw [List.find?_map, Option.map_eq_some_iff]
    simp only [exists_and_left, Function.comp_def, eq_comm]

theorem isFile_of_resolveIn? {c : CompilerConfig} {files : Files} {searchPath : Option Bytes}
    {program : Path} (h : c.resolveIn? files searchPath = some program) : files.isFile program := by
  rcases resolveIn?_eq_some_iff.mp h with ⟨-, hfile, rfl⟩ | ⟨-, list, dir, -, hfind, rfl⟩
  · exact hfile
  · have hfile := List.find?_some hfind
    exact hfile

theorem isAbsolute_iff_of_resolveIn? {c : CompilerConfig} {files : Files}
    {searchPath : Option Bytes} {program : Path}
    (h : c.resolveIn? files searchPath = some program) :
    program.isAbsolute ↔ c.ResolvesAbsolute files searchPath := by
  rcases resolveIn?_eq_some_iff.mp h with ⟨hparts, -, rfl⟩ | ⟨hname, list, dir, rfl, hfind, rfl⟩
  · simp [ResolvesAbsolute, Nat.not_le.mpr hparts]
  · rw [Path.isAbsolute_join, Bool.or_eq_true, ResolvesAbsolute]
    refine or_congr Iff.rfl ⟨fun habsolute => ?_, ?_⟩
    · exact ⟨hname, list, dir, rfl, hfind, habsolute⟩
    · rintro ⟨-, list', dir', hlist, hfind', habsolute⟩
      obtain rfl := Option.some.inj hlist
      obtain rfl : dir = dir' := Option.some.inj (hfind.symm.trans hfind')
      exact habsolute

/-- Writing a document changes nothing but that there are more files. -/
theorem Scratch.gains_prepare {host : Host} {text : String} {s : Scratch}
    (h : prepare host text = .ok s) : host.Gains s.host := by
  unfold prepare at h
  obtain ⟨⟨directory, made⟩, hfresh, hrest⟩ := bind_eq_ok_iff.mp h
  obtain ⟨filled, hmake, hs⟩ := bind_eq_ok_iff.mp hrest
  obtain rfl := Except.ok.inj hs
  exact (Host.gains_makeFresh hfresh).trans (Host.gains_make hmake)

/-- Where the compiler runs on a document: in its directory, if that is there, else where the server
does. -/
def runsIn (s : Scratch) (uri : String) : Place :=
  match workingDirectory? s.host.files uri with
  | none => s.host.files.current
  | some dir => (s.host.files.place dir).toOption.getD s.host.files.current

/-- The files as the compiler sees them on a document. -/
def seen (s : Scratch) (uri : String) : Files :=
  { s.host.files with current := runsIn s uri }

/-- What is started to diagnose a document. -/
def started (c : CompilerConfig) (s : Scratch) (program : Path) (uri : String) :
    Except IoFault (Files × Path) :=
  s.host.started (c.invocation s program uri)

theorem verdict_eq_spawn_iff {c : CompilerConfig} {uri text : String} {launch : Launch}
    {fault : IoFault} :
    (c.verdict uri text launch).result = .error (.spawn c.command fault) ↔
      launch = .failed fault := by
  cases launch with
  | failed fault' => simp [verdict]
  | endless => simp [verdict]
  | finished output error milliseconds =>
    by_cases htime : c.timeoutSeconds * 1000 ≤ milliseconds <;> simp [verdict, htime]

theorem launch_eq_failed_iff {c : CompilerConfig} {s : Scratch} {program : Path} {uri : String}
    {fault : IoFault} :
    s.host.launch (c.invocation s program uri) = .failed fault ↔
      c.started s program uri = .error fault ∨
        ∃ files path, c.started s program uri = .ok (files, path) ∧
          s.host.process files path (c.renderArgs s.input s.output)
            (s.host.environmentWith c.env) = .failed fault := by
  have hstarted : s.host.started (c.invocation s program uri) = c.started s program uri := rfl
  simp only [Host.launch, hstarted]
  cases c.started s program uri with
  | error fault' => simp
  | ok found =>
    obtain ⟨files, path⟩ := found
    simp only [reduceCtorEq, Except.ok.injEq, Prod.mk.injEq, false_or]
    constructor
    · exact fun h => ⟨files, path, ⟨rfl, rfl⟩, h⟩
    · rintro ⟨_, _, ⟨rfl, rfl⟩, h⟩
      exact h

theorem place_of_workingDirectory? {files : Files} {uri : String} {dir : Path}
    (h : workingDirectory? files uri = some dir) : ∃ place, files.place dir = .ok place := by
  obtain ⟨path, -, hparent⟩ := Option.bind_eq_some_iff.mp h
  obtain ⟨parent, -, hdir⟩ := Option.bind_eq_some_iff.mp hparent
  by_cases hthere : files.isDirectory parent
  · obtain rfl : parent = dir := by simpa [hthere] using hdir
    obtain ⟨place, hplace, -⟩ := Files.lookup_eq_ok_iff.mp (Files.lookup_of_isDirectory hthere)
    exact ⟨place, hplace⟩
  · simp [hthere] at hdir

theorem filesIn_workingDirectory? (s : Scratch) (uri : String) :
    s.host.filesIn (workingDirectory? s.host.files uri) = .ok (seen s uri) := by
  cases hdir : workingDirectory? s.host.files uri with
  | none => simp only [Host.filesIn, seen, runsIn, hdir]
  | some dir =>
    obtain ⟨place, hplace⟩ := place_of_workingDirectory? hdir
    simp only [Host.filesIn, seen, runsIn, hdir, hplace, Except.map, Except.toOption,
      Option.getD_some]

theorem started_eq_ok_iff {c : CompilerConfig} {s : Scratch} {program path : Path} {uri : String}
    {files : Files} :
    c.started s program uri = .ok (files, path) ↔
      (∀ given ∈ Host.textsOf (c.invocation s program uri), '\x00' ∉ given.toList) ∧
        files = seen s uri ∧
        files.firstProgram .noSuchFile
          (program.candidates ((s.host.environmentWith c.env).lookup "PATH")) = .ok path := by
  have hfiles : s.host.filesIn (c.invocation s program uri).directory = .ok (seen s uri) :=
    filesIn_workingDirectory? s uri
  rw [started, Host.started_eq_ok_iff, hfiles, Except.ok.injEq, eq_comm]
  rfl

theorem started_of_slash {c : CompilerConfig} {s : Scratch} {program path : Path} {uri : String}
    {files : Files} (hslash : Path.slash ∈ program.bytes) :
    c.started s program uri = .ok (files, path) ↔
      (∀ given ∈ Host.textsOf (c.invocation s program uri), '\x00' ∉ given.toList) ∧
        files = seen s uri ∧ path = program ∧ files.checkProgram program = .ok () := by
  rw [started_eq_ok_iff, Path.candidates_of_slash hslash, Files.firstProgram_singleton]

variable {host : Host} {text : String} {s : Scratch}

theorem extends_seen (h : Scratch.prepare host text = .ok s) (uri : String) :
    host.files.Extends (seen s uri) := by
  obtain ⟨files, hhost, hextends, -, -⟩ := Scratch.gains_prepare h
  rw [seen, hhost]
  exact ⟨hextends.entries, hextends.links⟩

/-- A path leads to the file that it led to before, from every directory if it is absolute, and
otherwise from the same directory. -/
theorem seen_place (h : Scratch.prepare host text = .ok s) {program : Path} {place : Place}
    (hplace : host.files.place program = .ok place) (uri : String)
    (hfrom : program.isAbsolute ∨ runsIn s uri = host.files.current) :
    (seen s uri).place program = .ok place := by
  refine (extends_seen h uri).place ?_ hplace
  rcases hfrom with habsolute | hsame
  · simp [Files.origin, habsolute]
  · simp [Files.origin, seen, hsame]

/-- Without links, a relative path that does not climb leads to the same file only from the same
directory. -/
theorem runsIn_of_seen_place (h : Scratch.prepare host text = .ok s) (hlinks : host.files.links = [])
    {program : Path} {place : Place} (hplace : host.files.place program = .ok place)
    (hrelative : ¬ program.isAbsolute) (hclimb : ¬ program.Climbs) {uri : String}
    (hseen : (seen s uri).place program = .ok place) : runsIn s uri = host.files.current := by
  obtain ⟨files, hhost, -, -, hsame⟩ := Scratch.gains_prepare h
  have hnone : (seen s uri).links = [] := by
    rw [seen, hhost]
    exact hsame.trans hlinks
  have hfrom := Files.place_eq_append hnone hseen hclimb
  rw [Files.place_eq_append hlinks hplace hclimb, List.append_left_inj] at hfrom
  simpa [Files.origin, hrelative, seen] using hfrom.symm

/-- The program that was found is absolute exactly if the command is, or if the first directory of
the search path with such a file is. It is a file. Where the document can be written and a program is
started, an absolute path starts nothing but this file, from every document's directory. A relative
path with a slash is looked up from the directory of the document: it leads to this file if the
compiler runs in the server's directory, and without links and `..` only then. A path without a slash
is looked for along the search path again. Where the document cannot be written, nothing is started;
otherwise what can be started is, and it is the compiler's failure to start where it cannot. -/
theorem resolved_program_started (c : CompilerConfig) (host : Host) (searchPath : Option Bytes)
    (program : Path) (hresolve : c.resolveIn? host.files searchPath = some program) :
    (program.isAbsolute ↔ c.ResolvesAbsolute host.files searchPath) ∧
    (∃ place content executable, host.files.place program = .ok place ∧
      host.files.entry? place = some (.file content executable) ∧
      ∀ uri text s files path, Scratch.prepare host text = .ok s →
        c.started s program uri = .ok (files, path) →
        files.entry? place = some (.file content executable) ∧
        (program.isAbsolute → path = program ∧ files.place path = .ok place) ∧
        (¬ program.isAbsolute → Path.slash ∈ program.bytes →
          path = program ∧ files.current = runsIn s uri ∧
          (runsIn s uri = host.files.current → files.place path = .ok place) ∧
          (host.files.links = [] → ¬ program.Climbs → files.place path = .ok place →
            runsIn s uri = host.files.current)) ∧
        (Path.slash ∉ program.bytes →
          path ∈ program.candidates ((s.host.environmentWith c.env).lookup "PATH"))) ∧
    (∀ uri text fault, Scratch.prepare host text = .error fault →
      (c.diagnose host program uri text).result = .error (.io fault)) ∧
    ∀ uri text s, Scratch.prepare host text = .ok s →
      (Path.slash ∈ program.bytes →
        (∀ given ∈ Host.textsOf (c.invocation s program uri), '\x00' ∉ given.toList) →
        (seen s uri).checkProgram program = .ok () →
        c.started s program uri = .ok (seen s uri, program)) ∧
      ∀ fault, (c.diagnose host program uri text).result = .error (.spawn c.command fault) ↔
        c.started s program uri = .error fault ∨
          ∃ files path, c.started s program uri = .ok (files, path) ∧
            s.host.process files path (c.renderArgs s.input s.output)
              (s.host.environmentWith c.env) = .failed fault := by
  refine ⟨isAbsolute_iff_of_resolveIn? hresolve, ?_, ?_, ?_⟩
  · obtain ⟨content, executable, hlookup⟩ :=
      Files.lookup_of_isFile (isFile_of_resolveIn? hresolve)
    obtain ⟨place, hplace, hentry⟩ := Files.lookup_eq_ok_iff.mp hlookup
    refine ⟨place, content, executable, hplace, hentry, ?_⟩
    intro uri text s files path hprepare hstarted
    obtain ⟨-, rfl, hfirst⟩ := started_eq_ok_iff.mp hstarted
    refine ⟨(extends_seen hprepare uri).entries place _ hentry, fun habsolute => ?_,
      fun hrelative hslash => ?_, fun _ => (Files.mem_of_firstProgram hfirst).1⟩
    · obtain ⟨-, -, rfl, -⟩ :=
        (started_of_slash (Path.slash_mem_of_isAbsolute habsolute)).mp hstarted
      exact ⟨rfl, seen_place hprepare hplace uri (.inl habsolute)⟩
    · obtain ⟨-, -, rfl, -⟩ := (started_of_slash hslash).mp hstarted
      exact ⟨rfl, rfl, fun hsame => seen_place hprepare hplace uri (.inr hsame),
        fun hlinks hclimb => runsIn_of_seen_place hprepare hlinks hplace hrelative hclimb⟩
  · intro uri text fault hprepare
    simp only [diagnose, hprepare]
  · intro uri text s hprepare
    refine ⟨fun hslash hgiven hcheck => ?_, fun fault => ?_⟩
    · exact (started_of_slash hslash).mpr ⟨hgiven, rfl, rfl, hcheck⟩
    · simp only [diagnose, hprepare, verdict_eq_spawn_iff, launch_eq_failed_iff]

/-- A host whose server runs in a directory with a program `tool`, and another program of this name
in a directory below. -/
def hostWithTools : Host where
  files :=
    { entries := [(Files.placeOf "/tmp", .directory), (Files.placeOf "/srv", .directory),
        (Files.placeOf "/srv/rules", .directory),
        (Files.placeOf "/srv/tool", .file [127, 69, 76, 70, 0] true),
        (Files.placeOf "/srv/rules/tool", .file [127, 69, 76, 70, 1] true)]
      current := Files.placeOf "/srv" }
  environment := [("PATH", "/bin")]

theorem resolved_program_started_absolute :
    ({ command := "/srv/tool" } : CompilerConfig).resolveIn? hostWithTools.files none =
        some (.ofText "/srv/tool") ∧
      ∃ s files, Scratch.prepare hostWithTools "" = .ok s ∧
        ({ command := "/srv/tool" } : CompilerConfig).started s (.ofText "/srv/tool")
          "file:///srv/rules/a.yar" = .ok (files, .ofText "/srv/tool") ∧
        files.place (.ofText "/srv/tool") = hostWithTools.files.place (.ofText "/srv/tool") := by
  have h := resolved_program_started { command := "/srv/tool" } hostWithTools none
    (.ofText "/srv/tool") rfl
  have hstarted := (h.2.2.2 "file:///srv/rules/a.yar" "" _ rfl).1 (by decide) (by decide) rfl
  obtain ⟨place, content, executable, hplace, -, hsame⟩ := h.2.1
  have hseen := ((hsame _ _ _ _ _ rfl hstarted).2.1 rfl).2
  exact ⟨rfl, _, _, rfl, hstarted, hseen.trans hplace.symm⟩

/-- The file that was found is not the one that is started. -/
theorem relative_command_starts_other_file :
    ({ command := "./tool" } : CompilerConfig).resolve? hostWithTools.files
        hostWithTools.searchPath? = some (.ofText "./tool") ∧
      (Path.ofText "./tool").isAbsolute = false ∧
      hostWithTools.files.lookup (.ofText "./tool") = .ok (.file [127, 69, 76, 70, 0] true) ∧
      ∃ s files, Scratch.prepare hostWithTools "" = .ok s ∧
        ({ command := "./tool" } : CompilerConfig).started s (.ofText "./tool")
          "file:///srv/rules/a.yar" = .ok (files, .ofText "./tool") ∧
        files.lookup (.ofText "./tool") = .ok (.file [127, 69, 76, 70, 1] true) :=
  ⟨rfl, rfl, rfl, _, _, rfl, rfl, rfl⟩

end CompilerConfig

end RuleServer
