import NodeAgent.Proofs.CommandLine.Tools
import NodeAgent.Proofs.Config.Reading
import NodeAgent.Proofs.Config.Validate
import NodeAgent.Proofs.Coordinator.Delivery

/-!
# The tools of a node arrive as they were set

Three rules have to fit together.  On the command line a tool ends at the first equals sign.  In a
configuration that can work no tool has a colon in its name.  And the request for a node carries a
parameter for each tool, in which the name and the path stand around a colon: a server that cuts each
parameter at its first colon reads the tools as they were set, whatever stands in their paths.

## Main definitions

* `toolParameter`, `readToolParameter`: a tool in a request, and how it is read.
* `NodeConfig.HasToolsOf`: a configuration with the tools of a file and of a command line.
* `Exchange.SendsTools`: a call that sends tools.
* `Occasion`: what the requests for a node depend on besides the configuration.

## Main results

* `readToolParameter_toolParameter`: a tool is read as it was set.
* `hasToolsOf_applyTo`: the command line goes before the file.
* `sendsTools_createNode`: the request for a node carries each tool once.
* `tool_locations_survive`: the tools of a node, from the file and the command line to a server.
-/

namespace NodeAgent

open Text Dialogue

/-! ## Tools in requests -/

/-- A tool in a request. -/
def toolParameter (tool : String × String) : String :=
  tool.1 ++ ":" ++ tool.2

/-- **A parameter is read** by a cut at its first colon. -/
def readToolParameter (parameter : String) : Option (String × String) :=
  (splitAtFirst (· == ':') parameter.toList).map fun (tool, path) =>
    (String.ofList tool, String.ofList path)

/-- The tools among the fields of a request. -/
def toolParametersOf (fields : List (String × String)) : List String :=
  (fields.filter (·.1 = "toolLocation")).map (·.2)

/-- **The tools in a request**, as a server sees them. -/
def Request.toolParameters (q : Request) : List String :=
  toolParametersOf q.fields

section Parameters

variable {tool : String × String} {tools : List (String × String)}

/-- **A tool is read as it was set**, unless there is a colon in its name. -/
theorem readToolParameter_toolParameter (h : ':' ∉ tool.1.toList) :
    readToolParameter (toolParameter tool) = some tool := by
  have hname : ∀ c ∈ tool.1.toList, (c == ':') = false := by
    intro c hc
    exact beq_eq_false_iff_ne.mpr fun heq => h (heq ▸ hc)
  have hparameter : (toolParameter tool).toList = tool.1.toList ++ ':' :: tool.2.toList := by
    simp [toolParameter]
  rw [readToolParameter, hparameter, splitAtFirst_append hname rfl, Option.map_some]
  dsimp only
  rw [String.ofList_toList, String.ofList_toList]

theorem map_readToolParameter (h : ∀ tool ∈ tools, ':' ∉ tool.1.toList) :
    (tools.map toolParameter).map readToolParameter = tools.map some := by
  rw [List.map_map]
  exact List.map_congr_left fun tool htool => readToolParameter_toolParameter (h tool htool)

/-- The fields of a registration hold its tools, one a field. -/
theorem toolParametersOf_fields (r : Registration) (secret inlineLabels : String) :
    toolParametersOf (r.fields secret inlineLabels) = r.toolLocations.map toolParameter := by
  have htools : ∀ tools : List (String × String),
      toolParametersOf (tools.map fun tool => ("toolLocation", tool.1 ++ ":" ++ tool.2)) =
        tools.map toolParameter := by
    intro tools
    simp [toolParametersOf, List.filter_map, Function.comp_def, toolParameter]
  cases hhash : r.hash <;>
    simp [Registration.fields, hhash, toolParametersOf, List.filter_append, ← htools]

end Parameters

/-- **A call that sends tools.** -/
structure Exchange.SendsTools {α : Type} (e : Exchange α) (tools : List (String × String)) : Prop where
  /-- The request for the node carries a parameter for each tool, and each is read as its tool. -/
  along : ∀ answers, ∀ q ∈ e.run.questions answers, Endpoint.createNode.isAt q.url.path = true →
    q.toolParameters = tools.map toolParameter ∧
      q.toolParameters.map readToolParameter = tools.map some
  /-- The other requests carry none. -/
  nothing_else : ∀ answers, ∀ q ∈ e.run.questions answers,
    Endpoint.createNode.isAt q.url.path = false → q.toolParameters = []
  /-- A call that succeeds has sent each parameter once. -/
  once : ∀ answers a, (e.run.transcript answers).2 = some (.ok a) →
    (e.run.questions answers).flatMap Request.toolParameters = tools.map toolParameter

section Calls

variable {client : HttpClient} {candidate : Candidate} {r : Registration} {q : Request}

theorem toolParameters_of_isFor {e : Endpoint} {fields : List (String × String)} (h : q.IsFor e fields) :
    q.toolParameters = toolParametersOf fields := by
  rw [Request.toolParameters, h.fields_eq]

theorem toolParameters_of_asksForCrumb {own : List Header} (h : q.AsksForCrumb own) :
    q.toolParameters = [] := by
  rw [toolParameters_of_isFor h.isFor]
  rfl

/-- Labels that follow a node carry no tools. -/
theorem toolParametersOf_of_mem_deferred {secret : String} {answer? : Option HttpAnswer} {p : Posting}
    (hp : p ∈ r.deferred secret answer?) : toolParametersOf p.fields = [] := by
  unfold Registration.deferred at hp
  split at hp
  · obtain ⟨chunk, -, rfl⟩ := List.mem_map.mp hp
    rfl
  · cases hp

/-- The changes of a registration carry its tools with the node. -/
theorem toolParametersOf_postings {answers : List HttpAnswer} {secret : String} {p : Posting}
    (hp : p ∈ r.postings secret answers) :
    toolParametersOf p.fields =
      if p.endpoint = .createNode then r.toolLocations.map toolParameter else [] := by
  rcases List.mem_cons.mp hp with rfl | hdeferred
  · exact toolParametersOf_fields r _ _
  · rw [toolParametersOf_of_mem_deferred hdeferred, (mem_deferred hdeferred).2.1]
    rfl

/-- The requests of a registration carry its tools with the node, and none elsewhere. -/
theorem toolParameters_of_mem {answers : List HttpAnswer}
    (hq : q ∈ (client.createNode candidate r).run.questions answers) :
    q.toolParameters =
      if Endpoint.createNode.isAt q.url.path = true then r.toolLocations.map toolParameter else [] := by
  rcases (alternates_createNode client candidate r).forall_requests answers q hq with
    hcrumb | ⟨p, hp, hfor⟩
  · rw [toolParameters_of_asksForCrumb hcrumb, if_neg]
    rw [hcrumb.isFor.isAt_iff]
    decide
  · rw [toolParameters_of_isFor hfor, toolParametersOf_postings hp]
    exact if_congr (eq_comm.trans hfor.isAt_iff.symm) rfl rfl

/-- **A registration sends its tools.** -/
theorem sendsTools_createNode (h : ∀ tool ∈ r.toolLocations, ':' ∉ tool.1.toList) :
    (client.createNode candidate r).SendsTools r.toolLocations := by
  constructor
  · intro answers q hq he
    have hparameters := toolParameters_of_mem hq
    rw [if_pos he] at hparameters
    rw [hparameters]
    exact ⟨rfl, map_readToolParameter h⟩
  · intro answers q hq he
    rw [toolParameters_of_mem hq, he, if_neg Bool.false_ne_true]
  · intro answers name hr
    have hchanges := (goesInRounds_of_ok hr).flatMap_of_ok hr
      (fun q hq => toolParameters_of_asksForCrumb hq) fun q p hfor => toolParameters_of_isFor hfor
    have hbehind : (r.deferred candidate.secret answers[1]?).flatMap
        (fun p => toolParametersOf p.fields) = [] :=
      List.flatMap_eq_nil_iff.mpr fun p hp => toolParametersOf_of_mem_deferred hp
    change ((client.createNode candidate r).run.transcript answers).1.flatMap _ = _
    rw [hchanges, Registration.postings, List.flatMap_cons, hbehind, List.append_nil]
    exact toolParametersOf_fields r _ _

end Calls

/-! ## The tools of a configuration -/

/-- **A configuration with the tools of a file and of texts** that were given for tools. -/
structure NodeConfig.HasToolsOf (c file : NodeConfig) (texts : List String) : Prop where
  isTable : IsTable c.toolLocations
  /-- No tool is there twice. -/
  nodup : (c.toolLocations.map (·.1)).Nodup
  /-- Of the texts for a tool the last one counts, whatever the file says. -/
  set : ∀ before text after tool path, texts = before ++ text :: after →
    readToolLocation text = .ok (tool, path) →
    (∀ later ∈ after, ∀ other, readToolLocation later ≠ .ok (tool, other)) →
    c.toolLocations.lookup tool = some path
  /-- Without a text for it, a tool is where the file says. -/
  kept : ∀ tool, (∀ text ∈ texts, ∀ path, readToolLocation text ≠ .ok (tool, path)) →
    c.toolLocations.lookup tool = file.toolLocations.lookup tool

section Merge

variable {file : NodeConfig} {a : Arguments} {texts : List String}

/-- Texts for other tools do not set a tool. -/
theorem lookup_reverse_eq_none {tools : List (String × String)} {tool : String}
    (hread : texts.mapM readToolLocation = .ok tools)
    (h : ∀ text ∈ texts, ∀ path, readToolLocation text ≠ .ok (tool, path)) :
    tools.reverse.lookup tool = none := by
  refine List.lookup_eq_none_iff.mpr ?_
  rintro ⟨name, path⟩ hmem
  refine bne_iff_ne.mpr ?_
  rintro rfl
  obtain ⟨text, htext, hset⟩ := exists_of_mem_mapM hread (List.mem_reverse.mp hmem)
  exact h text htext path hset

/-- **The command line goes before the file.** -/
theorem hasToolsOf_applyTo (hfile : IsTable file.toolLocations) (ha : a.ToolsFrom texts) :
    (a.applyTo file).HasToolsOf file texts := by
  have hlookup : ∀ tool, (a.applyTo file).toolLocations.lookup tool =
      (a.toolLocations.reverse.lookup tool).or (file.toolLocations.lookup tool) :=
    lookup_foldl_putSorted a.toolLocations file.toolLocations
  have htable : IsTable (a.applyTo file).toolLocations := isTable_foldl_putSorted a.toolLocations hfile
  refine ⟨htable, htable.nodup_keys, ?_, ?_⟩
  · rintro before text after tool path rfl hset hlater
    obtain ⟨front, entry, back, htools, -, hentry, hback⟩ := mapM_append_cons_eq_ok ha
    obtain rfl := Except.ok.inj (hset.symm.trans hentry)
    rw [hlookup, htools, List.reverse_append, List.reverse_cons, List.append_assoc,
      List.lookup_append, lookup_reverse_eq_none hback hlater, Option.none_or, List.singleton_append,
      lookup_cons_eq_ite, if_pos rfl]
    rfl
  · intro tool hnone
    rw [hlookup, lookup_reverse_eq_none ha hnone]
    rfl

end Merge

/-- **The occasion of a registration**: what its requests depend on besides the configuration. -/
structure Occasion where
  client : HttpClient
  candidate : Candidate
  surroundings : Surroundings
  identity : String
  /-- The text of the label file, if there is one. -/
  labels : Option String

/-- The call that registers a node with a configuration. -/
def Occasion.createNode (o : Occasion) (c : NodeConfig) : Exchange String :=
  o.client.createNode o.candidate
    ((c.registration o.surroundings o.identity).withLabelFile o.labels)

/-- **A request for a node** with a configuration. -/
def Occasion.Requests (o : Occasion) (c : NodeConfig) (q : Request) : Prop :=
  ∃ answers, q ∈ (o.createNode c).run.questions answers ∧ Endpoint.createNode.isAt q.url.path = true

section Configurations

variable {c other : NodeConfig}

/-- **A configuration that can work sends its tools.** -/
theorem sendsTools_of_validate (h : c.validate = .ok ()) (o : Occasion) :
    (o.createNode c).SendsTools c.toolLocations := by
  have hsame : ((c.registration o.surroundings o.identity).withLabelFile o.labels).toolLocations =
      c.toolLocations := by
    rw [Registration.withLabelFile]
    cases o.labels <;> rfl
  have hsends := @sendsTools_createNode o.client o.candidate
    ((c.registration o.surroundings o.identity).withLabelFile o.labels)
  rw [hsame] at hsends
  exact hsends (NodeConfig.validate_eq_ok_iff.mp h).tools

/-- A coordinator with places beneath its address can be asked for the node. -/
theorem exists_requests (o : Occasion) (h : o.candidate.url.isOpaque = false) (c : NodeConfig) :
    ∃ q, o.Requests c q := by
  obtain ⟨answers, q, hq, hfor⟩ := exists_isFor_createNode o.client o.candidate h _
  exact ⟨q, answers, hq, hfor.isAt⟩

/-- The tools of a configuration are those that are read in a request. -/
theorem mem_toolLocations_iff (h : c.validate = .ok ()) {o : Occasion} {q : Request}
    (hq : o.Requests c q) (tool : String × String) :
    tool ∈ c.toolLocations ↔
      ∃ parameter ∈ q.toolParameters, readToolParameter parameter = some tool := by
  obtain ⟨answers, hmem, he⟩ := hq
  obtain ⟨-, hread⟩ := (sendsTools_of_validate h o).along answers q hmem he
  rw [← List.mem_map, hread, List.mem_map]
  constructor
  · intro htool
    exact ⟨tool, htool, rfl⟩
  · rintro ⟨tool', htool, heq⟩
    rwa [← Option.some.inj heq]

/-- **Requests with the same parameters** come from configurations with the same tools. -/
theorem toolLocations_eq (h : c.validate = .ok ()) (htable : IsTable c.toolLocations)
    (hother : other.validate = .ok ()) (hotherTable : IsTable other.toolLocations)
    {o o' : Occasion} {q q' : Request} (hq : o.Requests c q) (hq' : o'.Requests other q')
    (hsame : ∀ parameter, parameter ∈ q.toolParameters ↔ parameter ∈ q'.toolParameters) :
    c.toolLocations = other.toolLocations := by
  refine htable.eq_of_mem_iff hotherTable fun tool => ?_
  rw [mem_toolLocations_iff h hq, mem_toolLocations_iff hother hq']
  simp only [hsame]

end Configurations

/-- **The tools of a node arrive as they were set.**  A file brings a table of tools.  A command line brings
the texts that stand in it as values of the option for tools, in their order, and whatever texts are tools
can stand there; each is cut at its first equals sign.  If the configuration that comes of both can work,
then the request for the node carries one parameter for each tool, and a cut at its first colon gives the
name and the path back.  Configurations with different tools never send the same parameters. -/
theorem tool_locations_survive :
    (∀ (s : Startup) (t : FileTree) (a : Arguments) (file : NodeConfig),
      s.fileConfig t a = .ok file → IsTable file.toolLocations) ∧
    (∀ (password : Option String) (words : List String) (a : Arguments),
      parseArguments password words = .ok a →
        ∃ occurrences command, CommandLine none words occurrences command ∧
          (toolTexts occurrences).mapM readToolLocation = .ok a.toolLocations) ∧
    (∀ (password : Option String) (texts : List String) (tools : List (String × String)),
      texts.mapM readToolLocation = .ok tools →
        parseArguments password (texts.map ("--tool-location=" ++ ·)) =
          .ok { toolLocations := tools, password := password }) ∧
    (∀ text tool path, readToolLocation text = .ok (tool, path) ↔
      text = tool ++ "=" ++ path ∧ tool ≠ "" ∧ '=' ∉ tool.toList ∧ path ≠ "") ∧
    (∀ (file : NodeConfig) (a : Arguments) (texts : List String), IsTable file.toolLocations →
      texts.mapM readToolLocation = .ok a.toolLocations → (a.applyTo file).validate = .ok () →
        (a.applyTo file).HasToolsOf file texts ∧
        ∀ o : Occasion, (o.createNode (a.applyTo file)).SendsTools (a.applyTo file).toolLocations ∧
          (o.candidate.url.isOpaque = false → ∃ q, o.Requests (a.applyTo file) q)) ∧
    ∀ c other : NodeConfig, c.validate = .ok () → IsTable c.toolLocations → other.validate = .ok () →
      IsTable other.toolLocations → c.toolLocations ≠ other.toolLocations →
        ∀ (o o' : Occasion) (q q' : Request), o.Requests c q → o'.Requests other q' →
          ¬ ∀ parameter, parameter ∈ q.toolParameters ↔ parameter ∈ q'.toolParameters := by
  refine ⟨?_, ?_, ?_, ?_, ?_, ?_⟩
  · intro s t a file h
    exact Startup.isTable_toolLocations h
  · intro password words a h
    exact toolsFrom_of_parseArguments h
  · intro password texts tools h
    exact parseArguments_tools h
  · intro text tool path
    exact readToolLocation_eq_ok_iff
  · intro file a texts hfile ha h
    refine ⟨hasToolsOf_applyTo hfile ha, fun o => ⟨sendsTools_of_validate h o, ?_⟩⟩
    intro hbase
    exact exists_requests o hbase _
  · intro c other h htable hother hotherTable hne o o' q q' hq hq' hsame
    exact hne (toolLocations_eq h htable hother hotherTable hq hq' hsame)

/-- The command line moves a tool of the file to a drive, and then once more, and adds one whose path has
both marks in it.  The file has a tool without a name. -/
theorem tool_locations_survive_of_drives :
    let file : NodeConfig :=
      { discoveryPort := 33848, executors := 1, fsRoot := "/",
        toolLocations := [("", "/any"), ("git", "/usr/bin"), ("jdk", "/opt/jdk")] }
    let texts := ["git=D:/Git", "ant=/a=b:c", "git=C:/Git"]
    let a : Arguments := { toolLocations := [("git", "D:/Git"), ("ant", "/a=b:c"), ("git", "C:/Git")] }
    let o : Occasion :=
      { client := {}
        candidate :=
          ⟨{ scheme := "http", authority := some { host := .name "ci" }, path := "/" }, "key"⟩
        surroundings := ⟨"builder", 1, "/", 33848⟩
        identity := "0a1b2c3d"
        labels := none }
    texts.mapM readToolLocation = .ok a.toolLocations ∧
      parseArguments none (texts.map ("--tool-location=" ++ ·)) = .ok a ∧
      (∃ occurrences command,
        CommandLine none ["-t", "git=D:/Git", "-tant=/a=b:c", "-t=git=C:/Git"] occurrences command ∧
          (toolTexts occurrences).mapM readToolLocation = .ok a.toolLocations) ∧
      file.validate = .ok () ∧ (a.applyTo file).validate = .ok () ∧
      (a.applyTo file).toolLocations.lookup "git" = some "C:/Git" ∧
      (∃ q, o.Requests (a.applyTo file) q ∧
        q.toolParameters = [":/any", "ant:/a=b:c", "git:C:/Git", "jdk:/opt/jdk"] ∧
        q.toolParameters.map readToolParameter =
          [some ("", "/any"), some ("ant", "/a=b:c"), some ("git", "C:/Git"),
            some ("jdk", "/opt/jdk")]) ∧
      ∀ q q', o.Requests file q → o.Requests (a.applyTo file) q' →
        q.toolParameters ≠ q'.toolParameters := by
  intro file texts a o
  have htexts : texts.mapM readToolLocation = .ok a.toolLocations := by decide +kernel
  have hfile : file.validate = .ok () := by decide +kernel
  have hmerged : (a.applyTo file).validate = .ok () := by decide +kernel
  have htable : IsTable file.toolLocations := by decide +kernel
  have htools : (a.applyTo file).toolLocations =
      [("", "/any"), ("ant", "/a=b:c"), ("git", "C:/Git"), ("jdk", "/opt/jdk")] := by
    decide +kernel
  have hwords : parseArguments none ["-t", "git=D:/Git", "-tant=/a=b:c", "-t=git=C:/Git"] = .ok a := by
    decide +kernel
  obtain ⟨-, hwritten, hgiven, -, hsurvive, hdistinct⟩ := tool_locations_survive
  obtain ⟨hhas, hsent⟩ := hsurvive file a texts htable htexts hmerged
  obtain ⟨hsends, hasked⟩ := hsent o
  refine ⟨htexts, hgiven none texts _ htexts, hwritten none _ a hwords, hfile, hmerged, ?_, ?_, ?_⟩
  · have hlast : readToolLocation "git=C:/Git" = .ok ("git", "C:/Git") := by decide +kernel
    exact hhas.set ["git=D:/Git", "ant=/a=b:c"] _ [] _ _ rfl hlast nofun
  · obtain ⟨q, answers, hq, he⟩ := hasked (by decide)
    obtain ⟨hparameters, hread⟩ := hsends.along answers q hq he
    rw [htools] at hparameters hread
    exact ⟨q, ⟨answers, hq, he⟩, hparameters, hread⟩
  · intro q q' hq hq' heq
    refine hdistinct file (a.applyTo file) hfile htable hmerged hhas.isTable ?_ o o q q' hq hq' ?_
    · rw [htools]
      decide
    · intro parameter
      rw [heq]

end NodeAgent
