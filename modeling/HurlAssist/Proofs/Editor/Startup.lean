import HurlAssist.Disk.Tree
import HurlAssist.Editor.Connection
import HurlAssist.Proofs.Config
import HurlAssist.Proofs.Document.Tiling

/-!
What a server makes of the settings when an editor has started. The server takes the API definition
over that they lead to, and if they lead to none, because a file is missing or broken or a directory
is not known, it is left as it was (`Connection.definition_taken_whole`).
-/

namespace HurlAssist

namespace Editor.Server

open Config

variable {disk : Disk Id} {env : Environment} {api : Api.Definition}

theorem configuredApi_of_error {e : Config.LoadError}
    (h : (Config.load disk env).run = .error e) :
    (configuredApi disk env).run = .error e.message := by
  replace h : Config.load disk env = pure (.error e) := h
  rw [configuredApi, h, pure_bind]
  rfl

/-- There are no settings, or they name nothing. -/
theorem configuredApi_of_unnamed {loaded : Option Config}
    (h : (Config.load disk env).run = .ok loaded) (unnamed : loaded.bind definition = none) :
    (configuredApi disk env).run = .ok none := by
  replace h : Config.load disk env = pure (.ok loaded) := h
  rw [configuredApi, h, pure_bind]
  cases loaded with
  | none => rfl
  | some config =>
    replace unnamed : config.definition = none := unnamed
    simp only [unnamed]
    rfl

theorem configuredApi_of_named {loaded : Option Config} {file : Path}
    (h : (Config.load disk env).run = .ok loaded) (names : loaded.bind definition = some file) :
    (configuredApi disk env).run =
      ((Api.Definition.load disk file).run.map some).mapError Api.LoadError.message := by
  obtain ⟨config, rfl, defined⟩ := Option.bind_eq_some_iff.mp names
  replace h : Config.load disk env = pure (.ok (some config)) := h
  rw [configuredApi, h, pure_bind]
  simp only [defined]
  cases read : (Api.Definition.load disk file).run with
  | error e =>
    replace read : Api.Definition.load disk file = pure (.error e) := read
    rw [read, pure_bind]
    rfl
  | ok api =>
    replace read : Api.Definition.load disk file = pure (.ok api) := read
    rw [read, pure_bind]
    rfl

theorem configuredApi_eq_ok :
    (configuredApi disk env).run = .ok (some api) ↔ LeadsTo disk env api := by
  simp only [LeadsTo, namesFile_iff]
  constructor
  · intro configured
    cases found : (Config.load disk env).run with
    | error e =>
      rw [configuredApi_of_error found] at configured
      cases configured
    | ok loaded =>
      cases names : loaded.bind definition with
      | none =>
        rw [configuredApi_of_unnamed found names] at configured
        cases configured
      | some file =>
        rw [configuredApi_of_named found names] at configured
        cases read : (Api.Definition.load disk file).run with
        | error e =>
          rw [read] at configured
          cases configured
        | ok api' =>
          rw [read] at configured
          cases configured
          obtain ⟨text, format, parsed⟩ := Api.Definition.load_eq_ok.mp read
          obtain ⟨config, rfl, defined⟩ := Option.bind_eq_some_iff.mp names
          exact ⟨file, text, format, ⟨config, rfl, defined⟩, parsed⟩
  · rintro ⟨file, text, format, ⟨config, found, names⟩, parsed⟩
    rw [configuredApi_of_named found names, Api.Definition.load_eq_ok.mpr ⟨text, format, parsed⟩]
    rfl

theorem exists_leadsTo {paths : List String}
    (found : (configuredApi disk env).run.toOption.any
      (fun loaded => loaded.any fun api => api.paths == paths) = true) :
    ∃ api, api.paths = paths ∧ LeadsTo disk env api := by
  obtain ⟨loaded, configured, found⟩ := exists_of_any found
  cases loaded with
  | none => cases found
  | some api => exact ⟨api, eq_of_beq found, configuredApi_eq_ok.mp configured⟩

theorem not_leadsTo (nothing : (configuredApi disk env).run.toOption.all Option.isNone = true)
    (api : Api.Definition) : ¬ LeadsTo disk env api := by
  intro leads
  rw [configuredApi_eq_ok.mpr leads] at nothing
  cases nothing

section

variable {s : Server} (reads : s.readsConfig = true)

include reads

theorem start_of_error {text : String} (h : (configuredApi disk env).run = .error text) :
    (s.start disk env).run = (s, [⟨.warning, text⟩, ready]) := by
  replace h : configuredApi disk env = pure (.error text) := h
  rw [start, if_pos reads, h, pure_bind]
  rfl

theorem start_of_none (h : (configuredApi disk env).run = .ok none) :
    (s.start disk env).run = (s, [ready]) := by
  replace h : configuredApi disk env = pure (.ok none) := h
  rw [start, if_pos reads, h, pure_bind]
  rfl

theorem start_of_some (h : (configuredApi disk env).run = .ok (some api)) :
    (s.start disk env).run = ({ s with api := api }, [ready]) := by
  replace h : configuredApi disk env = pure (.ok (some api)) := h
  rw [start, if_pos reads, h, pure_bind]
  rfl

end

theorem start_of_not_reads {s : Server} (ignores : s.readsConfig = false) :
    (s.start disk env).run = (s, [ready]) := by
  rw [start, if_neg (by simp [ignores])]
  rfl

/-- Either the settings lead to a definition, which replaces the one before, or nothing changes. -/
theorem start_cases (disk : Disk Id) (env : Environment) :
    (∃ api, LeadsTo disk env api ∧ ∀ s : Server, s.readsConfig = true →
      (s.start disk env).run.1 = { s with api := api }) ∨
    ((∀ api, ¬ LeadsTo disk env api) ∧ ∀ s : Server, (s.start disk env).run.1 = s) := by
  have kept (s : Server) (ignores : s.readsConfig = false) : (s.start disk env).run.1 = s := by
    rw [start_of_not_reads ignores]
  simp only [← configuredApi_eq_ok]
  cases found : (configuredApi disk env).run with
  | error text =>
    refine .inr ⟨by simp, fun s => ?_⟩
    cases reads : s.readsConfig with
    | true => rw [start_of_error reads found]
    | false => exact kept s reads
  | ok loaded =>
    cases loaded with
    | none =>
      refine .inr ⟨by simp, fun s => ?_⟩
      cases reads : s.readsConfig with
      | true => rw [start_of_none reads found]
      | false => exact kept s reads
    | some api =>
      refine .inl ⟨api, rfl, fun s reads => ?_⟩
      rw [start_of_some reads found]

/-- Where a server starts, its documents stay, and it goes on reading settings or not. -/
theorem start_keeps (disk : Disk Id) (env : Environment) (s : Server) :
    (s.start disk env).run.1.documents = s.documents ∧
    (s.start disk env).run.1.readsConfig = s.readsConfig ∧
    (s.readsConfig = false → (s.start disk env).run.1.api = s.api) := by
  cases reads : s.readsConfig with
  | false =>
    rw [start_of_not_reads reads]
    exact ⟨rfl, reads, fun _ => rfl⟩
  | true =>
    rcases start_cases disk env with ⟨api, -, replaced⟩ | ⟨-, kept⟩
    · rw [replaced s reads]
      exact ⟨rfl, reads, nofun⟩
    · rw [kept s]
      exact ⟨rfl, reads, nofun⟩

/-- If the working directory has settings, those of the user are not looked at. -/
theorem start_of_own {workspace : Path} (known : env.workspace = .ok workspace)
    (own : (disk.isFile (workspace.join (.ofText ".hurl-ls.json"))).run = true)
    {other : Environment} (same : other.workspace = env.workspace) (s : Server) :
    s.start disk other = s.start disk env := by
  have found (e : Environment) : (find? disk e workspace).run =
      some (workspace.join (.ofText ".hurl-ls.json")) := find?_eq_some.mpr (.inl ⟨own, rfl⟩)
  have loaded : Config.load disk other = Config.load disk env := by
    show (Config.load disk other).run = (Config.load disk env).run
    rw [load_of_known known, load_of_known (same.trans known), found, found]
  rw [start, start, configuredApi, configuredApi, loaded]

theorem exists_ne (api : Api.Definition) : ∃ other, other ≠ api := by
  refine ⟨⟨⟨"", .null⟩ :: api.items⟩, ?_⟩
  intro same
  have length := congrArg (fun d => d.items.length) same
  simp at length

/-- The settings lead to a definition exactly if a start replaces every other definition by it. -/
theorem leadsTo_iff {s : Server} (reads : s.readsConfig = true) : LeadsTo disk env api ↔
    ∀ before, ({ s with api := before }.start disk env).run.1 = { s with api := api } := by
  rcases start_cases disk env with ⟨api', leads, replaced⟩ | ⟨none, kept⟩
  · constructor
    · intro leads'
      obtain rfl : api' = api := by
        have found := (configuredApi_eq_ok.mpr leads).symm.trans (configuredApi_eq_ok.mpr leads')
        cases found
        rfl
      exact fun before => replaced { s with api := before } reads
    · intro taken
      obtain rfl : api' = api := by
        have after := (replaced s reads).symm.trans (taken s.api)
        exact congrArg Server.api after
      exact leads
  · constructor
    · intro leads
      exact absurd leads (none api)
    · intro taken
      obtain ⟨other, ne⟩ := exists_ne api
      have after := (kept { s with api := other }).symm.trans (taken other)
      exact absurd (congrArg Server.api after) ne

theorem handle_keeps (s : Server) (e : Event) :
    (s.handle e).api = s.api ∧ (s.handle e).readsConfig = s.readsConfig := by
  cases e with
  | opened => exact ⟨rfl, rfl⟩
  | changed url texts => cases texts <;> exact ⟨rfl, rfl⟩
  | closed => exact ⟨rfl, rfl⟩

end Editor.Server

namespace Editor.Connection

open Config Server

/-- A message comes to a connection. What is on disk may have changed before. -/
inductive Step : Connection → Connection → Prop
  | request {c : Connection} (disk : Disk Id) (method : String) (params : Json) :
      Step c (c.request disk method params).run.1
  | notify {c : Connection} (disk : Disk Id) (env : Config.Environment) (method : String)
      (params : Json) : Step c (c.notify disk env method params).run.1

/-- What a connection comes to by any messages. -/
inductive Run (c : Connection) : Connection → Prop
  | start : Run c c
  | next {d e} : Run c d → Step d e → Run c e

variable {c d : Connection}

theorem server_request (c : Connection) (disk : Disk Id) (method : String) (params : Json) :
    (c.request disk method params).run.1.server = c.server := by
  rw [request]
  split
  · split <;> rfl
  · split
    · rfl
    · split <;> rfl
  · rfl
  · rfl

/-- A notification about a document is an event, and that the editor has started is a start. -/
theorem server_notify_cases (c : Connection) (disk : Disk Id) (env : Config.Environment)
    (method : String) (params : Json) :
    (c.notify disk env method params).run.1.server = c.server ∨
    (c.notify disk env method params).run.1.server = (c.server.start disk env).run.1 ∨
    ∃ e, (c.notify disk env method params).run.1.server = c.server.handle e := by
  rw [notify]
  split
  · exact .inl rfl
  · split
    · split
      · exact .inr (.inl rfl)
      · split
        · rename_i e _
          exact .inr (.inr ⟨e, rfl⟩)
        · exact .inl rfl
    · exact .inl rfl

/-- No message changes whether a server reads settings, nor the definition of one that does not. -/
theorem Step.keeps (h : Step c d) : d.server.readsConfig = c.server.readsConfig ∧
    (c.server.readsConfig = false → d.server.api = c.server.api) := by
  cases h with
  | request disk method params =>
    rw [server_request]
    exact ⟨rfl, fun _ => rfl⟩
  | notify disk env method params =>
    rcases server_notify_cases c disk env method params with same | started | ⟨e, handled⟩
    · rw [same]
      exact ⟨rfl, fun _ => rfl⟩
    · rw [started]
      exact (start_keeps disk env c.server).2
    · obtain ⟨api, reads⟩ := handle_keeps c.server e
      rw [handled]
      exact ⟨reads, fun _ => api⟩

theorem Run.keeps (h : Run c d) : d.server.readsConfig = c.server.readsConfig ∧
    (c.server.readsConfig = false → d.server.api = c.server.api) := by
  induction h with
  | start => exact ⟨rfl, fun _ => rfl⟩
  | next _ step ih =>
    obtain ⟨reads, api⟩ := step.keeps
    refine ⟨reads.trans ih.1, fun ignores => ?_⟩
    rw [api (ih.1.trans ignores), ih.2 ignores]

/-- When an editor has started, a server that reads settings takes a definition over exactly if the
settings lead to it: the ones in the working directory, or else those of the user, can be read and
understood and name a file, which can be read as a definition in the format that the end of its name
stands for. Whatever of this fails, the server is left as it was, also if the working directory or a
directory for the settings of the user is not known. Settings in the working directory that fail are
not made up for by those of the user, and the open documents stay in any case. A server that reads
settings goes on doing so, whatever an editor sends it, and one that was given a definition keeps
it. -/
theorem definition_taken_whole (disk : Disk Id) (env : Environment) :
    (∀ (c : Connection) (params : Json), c.phase = .running →
      (c.notify disk env "initialized" params).run.1 =
        { c with server := (c.server.start disk env).run.1 }) ∧
    (∀ s : Server, s.readsConfig = true →
      (∀ api, LeadsTo disk env api ↔
        ∀ before, ({ s with api := before }.start disk env).run.1 = { s with api := api }) ∧
      ((∀ api, ¬ LeadsTo disk env api) → (s.start disk env).run.1 = s)) ∧
    (∀ workspace : Path, env.workspace = .ok workspace →
      (disk.isFile (workspace.join (.ofText ".hurl-ls.json"))).run = true →
        ∀ other : Environment, other.workspace = env.workspace →
          ∀ s : Server, s.start disk other = s.start disk env) ∧
    (∀ s : Server, (s.start disk env).run.1.documents = s.documents) ∧
    (∀ c, Run {} c → c.server.readsConfig = true) ∧
    ∀ api c, Run { server := .withApi api } c → c.server.api = api := by
  refine ⟨?_, ?_, ?_, fun s => (start_keeps disk env s).1, fun c run => run.keeps.1,
    fun api c run => run.keeps.2 rfl⟩
  · intro c params running
    rw [notify, if_neg (by decide), if_pos running, if_pos rfl]
    rfl
  · intro s reads
    refine ⟨fun api => leadsTo_iff reads, fun none => ?_⟩
    rcases start_cases disk env with ⟨api, leads, _⟩ | ⟨_, kept⟩
    · exact absurd leads (none api)
    · exact kept s
  · intro workspace known own other same s
    exact start_of_own known own same s

/-- Settings in the working directory that name a definition in JSON beside them, and settings of
the user that name one in YAML. The latter lead to nothing if settings in the working directory are
broken off, if the working directory has been removed, or if there is no home directory, and the
former lead to nothing if the file in JSON holds YAML. -/
theorem definition_taken_whole_here :
    let file (text : String) : Tree.Entry := .file (Octets.ofText text)
    let own : Tree := (({} : Tree).put (["w", "api.JSON"].map Octets.ofText)
        (file "\x7b\"paths\": \x7b\"/a\": 1\x7d\x7d")).put
      (["w", ".hurl-ls.json"].map Octets.ofText) (file "\x7b\"openapi_def\": \"api.JSON\"\x7d")
    let users : Tree := (({} : Tree).put (["d", "api.yml"].map Octets.ofText)
        (file "paths:\n  /b: x\n")).put
      (["h", ".config", "hurl-ls", "config.json"].map Octets.ofText)
      (file "\x7b\"openapi_def\": \"/d/api.yml\"\x7d")
    let broken : Tree := users.put (["w", ".hurl-ls.json"].map Octets.ofText) (file "\x7b")
    let misnamed : Tree := own.put (["w", "api.JSON"].map Octets.ofText) (file "paths:\n  /b: x\n")
    let env := Places.environment ⟨.ofText "/w", .ofText "/h", none⟩
    (∃ api, api.paths = ["/a"] ∧ LeadsTo own.disk env api ∧ ∀ before : Api.Definition,
      (({ api := before } : Server).start own.disk env).run.1 = { api := api }) ∧
    (∃ api, api.paths = ["/b"] ∧ LeadsTo users.disk env api ∧ ∀ before : Api.Definition,
      (({ api := before } : Server).start users.disk env).run.1 = { api := api }) ∧
    ∀ s : Server, s.readsConfig = true → (s.start broken.disk env).run.1 = s ∧
      (s.start users.disk { env with workspace := .error .notFound }).run.1 = s ∧
      (s.start users.disk { env with home := none }).run.1 = s ∧
      (s.start misnamed.disk env).run.1 = s := by
  intro file own users broken misnamed env
  refine ⟨?_, ?_, fun s reads => ⟨?_, ?_, ?_, ?_⟩⟩
  · obtain ⟨api, paths, leads⟩ := @exists_leadsTo own.disk env ["/a"] (by decide +kernel)
    exact ⟨api, paths, leads, (((definition_taken_whole own.disk env).2.1 {} rfl).1 api).mp leads⟩
  · obtain ⟨api, paths, leads⟩ := @exists_leadsTo users.disk env ["/b"] (by decide +kernel)
    exact ⟨api, paths, leads, (((definition_taken_whole users.disk env).2.1 {} rfl).1 api).mp leads⟩
  · exact ((definition_taken_whole broken.disk _).2.1 s reads).2 (not_leadsTo (by decide +kernel))
  · exact ((definition_taken_whole users.disk _).2.1 s reads).2 (not_leadsTo (by decide +kernel))
  · exact ((definition_taken_whole users.disk _).2.1 s reads).2 (not_leadsTo (by decide +kernel))
  · exact ((definition_taken_whole misnamed.disk _).2.1 s reads).2 (not_leadsTo (by decide +kernel))

end Editor.Connection

end HurlAssist
