import Mathlib
import RuleServer.Config.File
import RuleServer.Proofs.Decode.Record
import RuleServer.Proofs.Text.Utf8
import RuleServer.Proofs.Toml.Line

/-!
Saved configurations, read again. The text of a configuration is a list of lines; the lines make a
document; the document holds the configuration, with the defaults for what was not written.
-/

namespace RuleServer

open Toml

namespace CompilerConfig

def settingLines (c : CompilerConfig) : List Line :=
  [.header ["diagnostics", "compiler"],
    .pair "command" (stringText c.command) (.string c.command),
    .pair "args" (listText c.args) (.array (c.args.map .string)),
    .pair "timeout_seconds" (decimalText c.timeoutSeconds) (.nat c.timeoutSeconds),
    .header ["diagnostics", "compiler", "env"]]

def envLines (env : List (String × String)) : List Line :=
  env.map fun (name, value) => .pair name (stringText value) (.string value)

def lines (c : CompilerConfig) : List Line :=
  c.settingLines ++ envLines c.env

theorem toList_toToml (c : CompilerConfig) :
    c.toToml.toList = c.lines.flatMap (·.text.toList) := by
  have henv : (String.join (c.env.map fun (name, value) => pairLine name (stringText value))).toList =
      (envLines c.env).flatMap (·.text.toList) := by
    rw [String.toList_join, envLines, List.flatMap_map, List.flatMap_map]
    rfl
  simp [toToml, lines, settingLines, Line.text, henv]

theorem wellWritten_lines {c : CompilerConfig} (h : c.timeoutSeconds < twoTo 128) :
    ∀ line ∈ c.lines, line.WellWritten := by
  simp only [lines, settingLines, envLines, List.forall_mem_append, List.forall_mem_cons,
    List.forall_mem_map]
  exact ⟨⟨List.cons_ne_nil _ _, denotes_stringText _, denotes_listText _, denotes_decimalText h,
    List.cons_ne_nil _ _, List.forall_mem_nil _⟩, fun _ _ => denotes_stringText _⟩

end CompilerConfig

namespace ServerConfig

def settingLines (c : ServerConfig) : List Line :=
  [.pair "settings_namespace" (stringText c.settingsKey) (.string c.settingsKey),
    .header ["listener"],
    .pair "host" (stringText c.listener.host) (.string c.listener.host),
    .pair "port" (decimalText c.listener.port) (.nat c.listener.port),
    .header ["diagnostics"],
    .pair "enabled" (boolText c.diagnostics.enabled) (.bool c.diagnostics.enabled)]

def lines (c : ServerConfig) : List Line :=
  c.settingLines ++ (c.diagnostics.compiler.map CompilerConfig.lines).getD []

theorem toList_toToml (c : ServerConfig) :
    c.toToml.toList = c.lines.flatMap (·.text.toList) := by
  cases hcompiler : c.diagnostics.compiler with
  | none => simp [toToml, lines, settingLines, hcompiler, Line.text]
  | some compiler =>
    simp [toToml, lines, settingLines, hcompiler, Line.text, CompilerConfig.toList_toToml]

theorem wellWritten_lines {c : ServerConfig} (hport : c.listener.port < twoTo 128)
    (htimeout : ∀ compiler ∈ c.diagnostics.compiler, compiler.timeoutSeconds < twoTo 128) :
    ∀ line ∈ c.lines, line.WellWritten := by
  rw [lines, List.forall_mem_append]
  constructor
  · simp only [settingLines, List.forall_mem_cons]
    exact ⟨denotes_stringText _, List.cons_ne_nil _ _, denotes_stringText _,
      denotes_decimalText hport, List.cons_ne_nil _ _, denotes_boolText _, List.forall_mem_nil _⟩
  · cases hcompiler : c.diagnostics.compiler with
    | none => exact List.forall_mem_nil _
    | some compiler => exact CompilerConfig.wellWritten_lines (htimeout compiler hcompiler)

end ServerConfig

namespace CompilerConfig

def envTable (env : List (String × String)) : Table :=
  env.map fun (name, value) => (name, .value (.string value))

def table (c : CompilerConfig) (env : Table) : Table :=
  [("command", .value (.string c.command)),
    ("args", .value (.array (c.args.map .string))),
    ("timeout_seconds", .value (.nat c.timeoutSeconds)),
    ("env", .table .header env)]

end CompilerConfig

namespace ServerConfig

def table (c : ServerConfig) (compiler : Table) : Table :=
  [("settings_namespace", .value (.string c.settingsKey)),
    ("listener", .table .header [("host", .value (.string c.listener.host)),
      ("port", .value (.nat c.listener.port))]),
    ("diagnostics", .table .header (("enabled", .value (.bool c.diagnostics.enabled)) :: compiler))]

def document (c : ServerConfig) (compiler : CompilerConfig) (env : Table) : Document where
  root := c.table [("compiler", .table .header (compiler.table env))]
  opened := ["diagnostics", "compiler", "env"]

theorem addValue_env (c : ServerConfig) (compiler : CompilerConfig) {env : Table} {name : String}
    (hname : name ∉ env.map Prod.fst) (v : Json) :
    (c.document compiler env).addValue [name] v =
      some (c.document compiler (env ++ [(name, .value v)])) := by
  have hnew := Table.insertNew_fresh hname (.value v)
  simp [document, table, CompilerConfig.table, Document.addValue, cutLast, Table.descend,
    Table.find?, List.lookup, Table.put, Table.addValue, Table.descendDotted, hnew]

theorem foldlM_envLines (c : ServerConfig) (compiler : CompilerConfig)
    {env : List (String × String)} (done : Table)
    (h : (done.map Prod.fst ++ env.map Prod.fst).Nodup) :
    (CompilerConfig.envLines env).foldlM Line.perform (c.document compiler done) =
      some (c.document compiler (done ++ CompilerConfig.envTable env)) := by
  -- what is done so far and what is still to come never name a variable twice
  induction env generalizing done with
  | nil => simp [CompilerConfig.envLines, CompilerConfig.envTable]
  | cons p env ih =>
    obtain ⟨name, value⟩ := p
    have hname : name ∉ done.map Prod.fst := by
      intro hmem
      exact (List.nodup_append.mp h).2.2 name hmem name (by simp) rfl
    have hrest : ((done ++ [(name, Item.value (.string value))]).map Prod.fst ++
        env.map Prod.fst).Nodup := by
      simpa using h
    have hstep := ih _ hrest
    rw [CompilerConfig.envLines, List.map_cons, List.foldlM_cons]
    change ((c.document compiler done).addValue [name] (.string value)).bind _ = _
    rw [addValue_env c compiler hname]
    change (CompilerConfig.envLines env).foldlM _ _ = _
    rw [hstep, List.append_assoc]
    rfl

theorem foldlM_settingLines (c : ServerConfig) :
    c.settingLines.foldlM Line.perform {} =
      some { root := c.table [], opened := ["diagnostics"] } :=
  rfl

theorem foldlM_compilerLines (c : ServerConfig) (compiler : CompilerConfig) :
    compiler.settingLines.foldlM Line.perform { root := c.table [], opened := ["diagnostics"] } =
      some (c.document compiler []) :=
  rfl

def compilerTable (compiler? : Option CompilerConfig) : Table :=
  (compiler?.map fun compiler =>
    ("compiler", .table .header (compiler.table (CompilerConfig.envTable compiler.env)))).toList

theorem foldlM_lines (c : ServerConfig)
    (h : ∀ compiler ∈ c.diagnostics.compiler, (compiler.env.map Prod.fst).Nodup) :
    (c.lines.foldlM Line.perform {}).map Document.root =
      some (c.table (compilerTable c.diagnostics.compiler)) := by
  rw [lines, List.foldlM_append, foldlM_settingLines]
  cases hcompiler : c.diagnostics.compiler with
  | none => rfl
  | some compiler =>
    have henv : (CompilerConfig.envLines compiler.env).foldlM Line.perform (c.document compiler []) =
        some (c.document compiler (CompilerConfig.envTable compiler.env)) :=
      foldlM_envLines c compiler [] (by simpa using h compiler hcompiler)
    have hlines : compiler.lines.foldlM Line.perform
        { root := c.table [], opened := ["diagnostics"] } =
          some (c.document compiler (CompilerConfig.envTable compiler.env)) := by
      rw [CompilerConfig.lines, List.foldlM_append, foldlM_compilerLines]
      exact henv
    exact congrArg (Option.map Document.root) hlines

theorem parse?_toToml {c : ServerConfig} (hport : c.listener.port < twoTo 128)
    (htimeout : ∀ compiler ∈ c.diagnostics.compiler, compiler.timeoutSeconds < twoTo 128)
    (henv : ∀ compiler ∈ c.diagnostics.compiler, (compiler.env.map Prod.fst).Nodup) :
    parse? c.toToml = some (c.table (compilerTable c.diagnostics.compiler)).toJson := by
  rw [parse?_lines (wellWritten_lines hport htimeout) c.toList_toToml]
  obtain ⟨d, hd, hroot⟩ := Option.map_eq_some_iff.mp (foldlM_lines c henv)
  rw [hd, Option.map_some, hroot]

end ServerConfig

namespace ListenerConfig

def pairs (l : ListenerConfig) : Members :=
  [("host", .string l.host), ("port", .nat l.port)]

theorem nodup_pairs (l : ListenerConfig) : (l.pairs.map Prod.fst).Nodup :=
  show ["host", "port"].Nodup by decide

theorem decode_pairs {l : ListenerConfig} (h : l.port ≤ maxUnsigned 16) :
    decode .file (.ofPairs l.pairs) = .ok l := by
  have hknown : ∀ n ∈ ["host", "port"], n ∈ fields.names := by decide
  have hhost : Decoder.string .file (.string l.host) = .ok l.host := rfl
  have hport : Decoder.unsigned16 .file (.nat l.port) = .ok l.port :=
    Decoder.unsigned_nat .file (by decide) h "u16"
  refine Fields.strict_ofPairs ?_ (by decide) l.nodup_pairs hknown ?_ "ListenerConfig"
  · exact ((Fields.tested_field _ _ _ _).map _).seq (Fields.tested_field _ _ _ _)
  · have hfirst := Fields.defaulted_found "host" l.nodup_pairs rfl hhost ({} : ListenerConfig).host
    have hsecond := Fields.defaulted_found "port" l.nodup_pairs rfl hport ({} : ListenerConfig).port
    exact Fields.seq_ok (Fields.make_ok ListenerConfig.mk hfirst) hsecond

end ListenerConfig

namespace CompilerConfig

/-- What the type of a compiler's configuration says of its values: the seconds have 64 bits, and
the environment is a map. -/
structure WellFormed (c : CompilerConfig) : Prop where
  timeout_le : c.timeoutSeconds ≤ maxUnsigned 64
  env_ascending : (c.env.map Prod.fst).Pairwise (· < ·)

def envPairs (env : List (String × String)) : Members :=
  env.map fun p => (p.1, .string p.2)

def pairs (c : CompilerConfig) : Members :=
  [("command", .string c.command), ("args", .array (c.args.map .string)),
    ("timeout_seconds", .nat c.timeoutSeconds), ("env", .ofPairs (envPairs c.env))]

theorem nodup_pairs (c : CompilerConfig) : (c.pairs.map Prod.fst).Nodup :=
  show ["command", "args", "timeout_seconds", "env"].Nodup by decide

theorem decode_pairs {c : CompilerConfig} (h : c.WellFormed) {env : List (String × String)}
    (henv : env.Perm c.env) : decode .file (.ofPairs { c with env }.pairs) = .ok c := by
  have hpairs := { c with env }.nodup_pairs
  have hknown : ∀ n ∈ ["command", "args", "timeout_seconds", "env"], n ∈ fields.names := by decide
  have hcommand : Decoder.string .file (.string c.command) = .ok c.command := rfl
  have hargs := Decoder.list_string .file c.args
  have htimeout : Decoder.unsigned64 .file (.nat c.timeoutSeconds) = .ok c.timeoutSeconds :=
    Decoder.unsigned_nat .file (by decide) h.timeout_le "u64"
  have hordered : Members.ofPairs (envPairs env) = envPairs c.env := by
    refine Members.ofPairs_of_perm (henv.map _) ?_
    simpa [envPairs, List.map_map, Function.comp_def] using h.env_ascending
  have hmap : Decoder.string.map .file (.ofPairs (envPairs env)) = .ok c.env := by
    rw [Json.ofPairs, hordered]
    exact Decoder.map_string .file c.env
  refine Fields.strict_ofPairs ?_ (by decide) hpairs hknown ?_ "CompilerConfig"
  · exact ((((Fields.tested_field _ _ _ _).map _).seq (Fields.tested_field _ _ _ _)).seq
      (Fields.tested_field _ _ _ _)).seq (Fields.tested_field _ _ _ _)
  · have hfirst := Fields.required_found "command" hpairs rfl hcommand
    have hsecond := Fields.defaulted_found "args" hpairs rfl hargs standard.args
    have hthird := Fields.defaulted_found "env" hpairs rfl hmap standard.env
    have hfourth :=
      Fields.defaulted_found "timeout_seconds" hpairs rfl htimeout standard.timeoutSeconds
    exact Fields.seq_ok (Fields.seq_ok (Fields.seq_ok (Fields.make_ok CompilerConfig.mk hfirst)
      hsecond) hthird) hfourth

end CompilerConfig

namespace DiagnosticsConfig

def pairs (d : DiagnosticsConfig) : Members :=
  ("enabled", .bool d.enabled) ::
    (d.compiler.map fun compiler => ("compiler", Json.ofPairs compiler.pairs)).toList

theorem names_pairs (d : DiagnosticsConfig) :
    d.pairs.map Prod.fst = ["enabled"] ∨ d.pairs.map Prod.fst = ["enabled", "compiler"] := by
  cases hcompiler : d.compiler with
  | none => exact .inl (by simp [pairs, hcompiler])
  | some compiler => exact .inr (by simp [pairs, hcompiler])

theorem nodup_pairs (d : DiagnosticsConfig) : (d.pairs.map Prod.fst).Nodup := by
  rcases d.names_pairs with h | h <;> rw [h] <;> decide

/-- The diagnostics that are read where these were written: without a compiler, the default one. -/
def reloaded (d : DiagnosticsConfig) : DiagnosticsConfig :=
  { d with compiler := some (d.compiler.getD .standard) }

/-- The same diagnostics, with the environment of the compiler listed in another order. -/
def listing (d : DiagnosticsConfig) (env : List (String × String)) : DiagnosticsConfig :=
  { d with compiler := d.compiler.map fun compiler => { compiler with env } }

theorem decode_pairs {d : DiagnosticsConfig} (h : ∀ compiler ∈ d.compiler, compiler.WellFormed)
    {env : List (String × String)} (henv : ∀ compiler ∈ d.compiler, env.Perm compiler.env) :
    decode .file (.ofPairs (d.listing env).pairs) = .ok d.reloaded := by
  have hpairs := (d.listing env).nodup_pairs
  have hknown : ∀ n ∈ (d.listing env).pairs.map Prod.fst, n ∈ fields.names := by
    rcases (d.listing env).names_pairs with h | h <;> rw [h] <;> decide
  have henabled : Decoder.boolean .file (.bool d.enabled) = .ok d.enabled := rfl
  have hfirst := Fields.defaulted_found "enabled" hpairs rfl henabled true
  have hsecond : (Fields.defaulted "compiler" CompilerConfig.decode.nullable
      (some .standard)).ofMembers .file (Members.ofPairs (d.listing env).pairs) =
        .ok d.reloaded.compiler := by
    cases hcompiler : d.compiler with
    | none =>
      have hfind : Members.find? "compiler" (d.listing env).pairs = none := by
        simp [pairs, listing, hcompiler, Members.find?]
      rw [Fields.defaulted_absent "compiler" hpairs hfind, reloaded, hcompiler]
      rfl
    | some compiler =>
      have hfind : Members.find? "compiler" (d.listing env).pairs =
          some (.ofPairs { compiler with env }.pairs) := by
        simp [pairs, listing, hcompiler, Members.find?]
      have hread : CompilerConfig.decode.nullable .file (.ofPairs { compiler with env }.pairs) =
          .ok (some compiler) :=
        map_eq_ok_iff.mpr ⟨compiler, CompilerConfig.decode_pairs (h compiler hcompiler)
          (henv compiler hcompiler), rfl⟩
      rw [Fields.defaulted_found "compiler" hpairs hfind hread, reloaded, hcompiler]
      rfl
  refine Fields.strict_ofPairs ?_ (by decide) hpairs hknown ?_ "DiagnosticsConfig"
  · exact ((Fields.tested_field _ _ _ _).map _).seq (Fields.tested_field _ _ _ _)
  · exact Fields.seq_ok (Fields.make_ok DiagnosticsConfig.mk hfirst) hsecond

end DiagnosticsConfig

theorem Files.readText_of_read {files : Files} {path : Path} {text : String}
    (h : files.read path = .ok (utf8Bytes text)) : files.readText path = .ok text := by
  have hdecode : textOfUtf8? (utf8Bytes text) = some text := by
    simp [textOfUtf8?, utf8Bytes, Utf8.decode?_encode]
  simp only [Files.readText, h, bind, Except.bind, hdecode]
  rfl

namespace ServerConfig

/-- What the type of a configuration says of its values: the port has 16 bits. -/
structure WellFormed (c : ServerConfig) : Prop where
  port_le : c.listener.port ≤ maxUnsigned 16
  compiler : ∀ compiler ∈ c.diagnostics.compiler, compiler.WellFormed

def pairs (c : ServerConfig) : Members :=
  [("settings_namespace", .string c.settingsKey), ("listener", .ofPairs c.listener.pairs),
    ("diagnostics", .ofPairs c.diagnostics.pairs)]

theorem nodup_pairs (c : ServerConfig) : (c.pairs.map Prod.fst).Nodup :=
  show ["settings_namespace", "listener", "diagnostics"].Nodup by decide

theorem memberPairs_envTable (env : List (String × String)) :
    memberPairs (CompilerConfig.envTable env) = CompilerConfig.envPairs env := by
  induction env with
  | nil => rfl
  | cons p env ih =>
    change (p.1, Json.string p.2) :: memberPairs (CompilerConfig.envTable env) = _
    rw [ih]
    rfl

theorem toJson_table (c : ServerConfig) :
    (c.table (compilerTable c.diagnostics.compiler)).toJson = .ofPairs c.pairs := by
  cases hcompiler : c.diagnostics.compiler with
  | none => simp [table, compilerTable, Table.toJson, memberPairs, Item.toJson, pairs,
      ListenerConfig.pairs, DiagnosticsConfig.pairs, hcompiler]
  | some compiler => simp [table, compilerTable, Table.toJson, memberPairs, Item.toJson, pairs,
      ListenerConfig.pairs, DiagnosticsConfig.pairs, CompilerConfig.pairs, CompilerConfig.table,
      memberPairs_envTable, hcompiler]

/-- The configuration that is read where this one was written: without a compiler, the default
one. -/
def reloaded (c : ServerConfig) : ServerConfig :=
  { c with diagnostics := c.diagnostics.reloaded }

/-- The same configuration, with the environment of the compiler listed in another order. -/
def listing (c : ServerConfig) (env : List (String × String)) : ServerConfig :=
  { c with diagnostics := c.diagnostics.listing env }

theorem decode_pairs {c : ServerConfig} (h : c.WellFormed) {env : List (String × String)}
    (henv : ∀ compiler ∈ c.diagnostics.compiler, env.Perm compiler.env) :
    decode .file (.ofPairs (c.listing env).pairs) = .ok c.reloaded := by
  have hpairs := (c.listing env).nodup_pairs
  have hknown : ∀ n ∈ ["settings_namespace", "listener", "diagnostics"], n ∈ fields.names := by
    decide
  have hkey : Decoder.string .file (.string c.settingsKey) = .ok c.settingsKey := rfl
  have hlistener := ListenerConfig.decode_pairs h.port_le
  have hdiagnostics := DiagnosticsConfig.decode_pairs h.compiler henv
  refine Fields.strict_ofPairs ?_ (by decide) hpairs hknown ?_ "ServerConfig"
  · exact (((Fields.tested_field _ _ _ _).map _).seq (Fields.tested_field _ _ _ _)).seq
      (Fields.tested_field _ _ _ _)
  · have hfirst := Fields.defaulted_found "listener" hpairs rfl hlistener {}
    have hsecond := Fields.defaulted_found "settings_namespace" hpairs rfl hkey
      ({} : ServerConfig).settingsKey
    have hthird := Fields.defaulted_found "diagnostics" hpairs rfl hdiagnostics {}
    exact Fields.seq_ok (Fields.seq_ok (Fields.make_ok ServerConfig.mk hfirst) hsecond) hthird

theorem ofToml_toToml {c : ServerConfig} (h : c.WellFormed) {env : List (String × String)}
    (henv : ∀ compiler ∈ c.diagnostics.compiler, env.Perm compiler.env) :
    ofToml (c.listing env).toToml = .ok c.reloaded := by
  have hport : (c.listing env).listener.port < twoTo 128 := h.port_le.trans_lt (by decide)
  have hlisted : ∀ compiler ∈ (c.listing env).diagnostics.compiler,
      ∃ original ∈ c.diagnostics.compiler, compiler = { original with env } := by
    intro compiler hcompiler
    obtain ⟨original, horiginal, rfl⟩ := Option.map_eq_some_iff.mp hcompiler
    exact ⟨original, horiginal, rfl⟩
  have htimeout : ∀ compiler ∈ (c.listing env).diagnostics.compiler,
      compiler.timeoutSeconds < twoTo 128 := by
    intro compiler hcompiler
    obtain ⟨original, horiginal, rfl⟩ := hlisted compiler hcompiler
    exact (h.compiler original horiginal).timeout_le.trans_lt (by decide)
  have hnames : ∀ compiler ∈ (c.listing env).diagnostics.compiler,
      (compiler.env.map Prod.fst).Nodup := by
    intro compiler hcompiler
    obtain ⟨original, horiginal, rfl⟩ := hlisted compiler hcompiler
    have hascending := (h.compiler original horiginal).env_ascending
    exact ((henv original horiginal).map Prod.fst).nodup_iff.mpr (hascending.imp ne_of_lt)
  rw [ofToml, parse?_toToml hport htimeout hnames, toJson_table]
  change (decode .file (.ofPairs (c.listing env).pairs)).mapError _ = _
  rw [decode_pairs h henv]
  rfl

theorem validate_eq_ok_iff {c : ServerConfig} :
    c.validate = .ok () ↔ c.listener.validate = .ok () ∧ isBlankText c.settingsKey = false ∧
      ∀ compiler ∈ c.diagnostics.compiler, compiler.validate = .ok () := by
  rw [validate]
  cases hlistener : c.listener.validate with
  | error fault => simp [bind, Except.bind]
  | ok _ =>
    cases hkey : isBlankText c.settingsKey <;> cases hcompiler : c.diagnostics.compiler <;>
      simp [bind, Except.bind, throw, throwThe, MonadExceptOf.throw, pure, Except.pure]

theorem validate_reloaded {c : ServerConfig} (h : c.validate = .ok ()) :
    c.reloaded.validate = .ok () := by
  obtain ⟨hlistener, hkey, hcompiler⟩ := validate_eq_ok_iff.mp h
  have hstandard : CompilerConfig.standard.validate = .ok () := by decide
  refine validate_eq_ok_iff.mpr ⟨hlistener, hkey, fun compiler hmem => ?_⟩
  obtain rfl : c.diagnostics.compiler.getD .standard = compiler := Option.some.inj hmem
  cases hwritten : c.diagnostics.compiler with
  | none => exact hstandard
  | some compiler => exact hcompiler compiler hwritten

theorem readFrom_saved {c : ServerConfig} (h : c.WellFormed) (hvalid : c.validate = .ok ())
    {env : List (String × String)}
    (henv : ∀ compiler ∈ c.diagnostics.compiler, env.Perm compiler.env) {files : Files} {path : Path}
    (hfile : files.read path = .ok (utf8Bytes (c.listing env).toToml)) :
    readFrom files.readText path = .ok c.reloaded := by
  -- what is read is checked once more, with the compiler that was filled in
  rw [readFrom, Files.readText_of_read hfile]
  change ofText (c.listing env).toToml = _
  rw [ofText, ofToml_toToml h henv]
  change (c.reloaded.validate.mapError Fault.config >>= _) = _
  rw [validate_reloaded hvalid]
  rfl

theorem reloaded_eq_iff {c : ServerConfig} : c.reloaded = c ↔ c.diagnostics.compiler.isSome := by
  obtain ⟨listener, key, enabled, compiler?⟩ := c
  cases compiler? <;> simp [reloaded, DiagnosticsConfig.reloaded]

/-- A configuration that is saved in a file is read from it with every field as it was, except that
an absent compiler comes back as the default one: it is the same configuration exactly when it has a
compiler. The environment is a map, so the file may list it in any order. -/
theorem saved_configuration_reloads {c : ServerConfig} (h : c.WellFormed)
    (hvalid : c.validate = .ok ()) {env : List (String × String)}
    (henv : ∀ compiler ∈ c.diagnostics.compiler, env.Perm compiler.env) {files : Files} {path : Path}
    (hfile : files.read path = .ok (utf8Bytes (c.listing env).toToml)) :
    readFrom files.readText path = .ok c.reloaded ∧
      (readFrom files.readText path = .ok c ↔ c.diagnostics.compiler.isSome) := by
  have hread := readFrom_saved h hvalid henv hfile
  refine ⟨hread, ?_⟩
  rw [hread, Except.ok.injEq]
  exact reloaded_eq_iff

/-- The files with a configuration file of the given content and nothing else. -/
def fileHolding (content : Bytes) : Files :=
  Files.empty.add (Files.placeOf fileName) (.file content false)

theorem read_fileHolding (content : Bytes) :
    (fileHolding content).read (.ofText fileName) = .ok content := by
  rfl

/-- A configuration whose texts need every way of writing strings. -/
def sample : ServerConfig where
  listener := { host := "::1", port := 65535 }
  settingsKey := "rules\t\x01"
  diagnostics := { enabled := false, compiler := some {
    command := "C:\\yara\\yarac.exe"
    args := ["\x7binput\x7d", "it's \"\"\"", "a\n'b"]
    env := [("PATH", "/bin"), ("a \"b\"", "")]
    timeoutSeconds := 18446744073709551615 } }

theorem saved_configuration_reloads_sample :
    sample.validate = .ok () ∧
      readFrom (fileHolding (utf8Bytes
        (sample.listing [("a \"b\"", ""), ("PATH", "/bin")]).toToml)).readText (.ofText fileName) =
          .ok sample := by
  have hwell : sample.WellFormed := by
    refine ⟨by decide, ?_⟩
    rintro compiler ⟨⟩
    exact ⟨by decide, by decide⟩
  have hvalid : sample.validate = .ok () := by decide
  have henv : ∀ compiler ∈ sample.diagnostics.compiler,
      [("a \"b\"", ""), ("PATH", "/bin")].Perm compiler.env := by
    rintro compiler ⟨⟩
    exact List.Perm.swap _ _ _
  exact ⟨hvalid, (saved_configuration_reloads hwell hvalid henv (read_fileHolding _)).2.mpr rfl⟩

/-- Diagnostics that are off for want of a compiler come back on. -/
theorem saved_without_compiler_reloads_with_default :
    ({ diagnostics := { compiler := none } } : ServerConfig).validate = .ok () ∧
      readFrom (fileHolding (utf8Bytes
        ({ diagnostics := { compiler := none } } : ServerConfig).toToml)).readText
          (.ofText fileName) = .ok {} ∧
      ({} : ServerConfig) ≠ { diagnostics := { compiler := none } } := by
  have hvalid : ({ diagnostics := { compiler := none } } : ServerConfig).validate = .ok () := by
    decide
  have hwell : ({ diagnostics := { compiler := none } } : ServerConfig).WellFormed :=
    ⟨by decide, nofun⟩
  have henv : ∀ compiler ∈ (none : Option CompilerConfig),
      ([] : List (String × String)).Perm compiler.env := nofun
  exact ⟨hvalid, readFrom_saved hwell hvalid henv (read_fileHolding _), by decide⟩

end ServerConfig

end RuleServer
