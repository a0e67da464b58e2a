import IPsecControl.Proofs.CommandLine.Settings
import IPsecControl.Proofs.Tunnel.Definition
import IPsecControl.Tunnel.Config

/-! Where the connection of a tunnel test comes from: from a file, or from the flags that define one, and never from
both. -/
namespace IPsecControl.CommandLine
open Tunnel
variable {o : Opt} {args : List String}

/-! ### Flags -/

/-- What stands for the text of an option that is not given. -/
def Opt.default? : Opt → Option String
  | .conn => some "opi-test"
  | .child => some "opi-child"
  | .localAddr => some "192.168.200.200"
  | .remoteAddr => some "192.168.200.210"
  | .localId => some "hacker@strongswan.org"
  | .remoteId => some "server.strongswan.org"
  | .auth => some "psk"
  | .proposal => some "aes_gcm_icv_16"
  | .dh => some "curve25519"
  | .localTs => some "10.3.0.0/16"
  | .remoteTs => some "10.1.0.0/16"
  | _ => none

/-- The texts that arguments give to an option, or else the default. -/
def textsOf (o : Opt) (args : List String) : List String :=
  if given o args = [] then o.default?.toList else given o args

def textOf (o : Opt) (args : List String) : String := (textsOf o args).headD ""

/-- The names in all texts of an option, with commas between them. -/
def namesOf (o : Opt) (args : List String) : List String := (textsOf o args).flatMap Kind.listed

/-- The connection that the flags among arguments define. -/
def flagDefinition (args : List String) : Definition where
  name := textOf .conn args
  localAddresses := [textOf .localAddr args]
  remoteAddresses := [textOf .remoteAddr args]
  localAuth := ⟨textOf .auth args, textOf .localId args⟩
  remoteAuth := ⟨textOf .auth args, textOf .remoteId args⟩
  children := [{
    name := textOf .child args
    proposal := ⟨namesOf .proposal args, namesOf .integ args, namesOf .dh args⟩
    localSelectors := [textOf .localTs args]
    remoteSelectors := [textOf .remoteTs args] }]

theorem text_eq {default : String} {values : List String} (reads : Kind.text.Reads (given o args) values)
    (fallback : o.default? = some default) : values.head?.getD default = textOf o args := by
  rw [Kind.text_values reads, textOf, textsOf]
  split
  next empty => rw [empty, fallback, Option.toList_some, List.head?_nil, Option.getD_none, List.headD_cons]
  next present =>
    obtain ⟨text, rest, same⟩ := List.exists_cons_of_ne_nil present
    rw [same, List.head?_cons, Option.getD_some, List.headD_cons]

theorem names_eq {default : List String} {values : List (List String)}
    (reads : Kind.names.Reads (given o args) values) (fallback : o.default?.toList.flatMap Kind.listed = default) :
    Settings.namesOr default values = namesOf o args := by
  rw [Kind.names_values reads, Settings.namesOr, namesOf, textsOf]
  split
  next empty =>
    rw [if_pos (List.map_eq_nil_iff.mp (List.isEmpty_iff.mp empty)), fallback]
  next present =>
    have present : given o args ≠ [] := fun empty => present (by rw [empty]; rfl)
    rw [if_neg present, List.flatMap_def]

namespace Settings.Tell
variable {s : Settings}

theorem definition (tell : s.Tell args) : s.tunnelArgs.definition = flagDefinition args := by
  have conn := text_eq (tell.reads .conn (by decide) nofun) rfl
  have child := text_eq (tell.reads .child (by decide) nofun) rfl
  have localAddr := text_eq (tell.reads .localAddr (by decide) nofun) rfl
  have remoteAddr := text_eq (tell.reads .remoteAddr (by decide) nofun) rfl
  have localId := text_eq (tell.reads .localId (by decide) nofun) rfl
  have remoteId := text_eq (tell.reads .remoteId (by decide) nofun) rfl
  have auth := text_eq (tell.reads .auth (by decide) nofun) rfl
  have localTs := text_eq (tell.reads .localTs (by decide) nofun) rfl
  have remoteTs := text_eq (tell.reads .remoteTs (by decide) nofun) rfl
  have proposal := names_eq (tell.reads .proposal (by decide) nofun) rfl
  have integ := names_eq (tell.reads .integ (by decide) nofun) rfl
  have dh := names_eq (tell.reads .dh (by decide) nofun) rfl
  unfold flagDefinition
  rw [← conn, ← child, ← localAddr, ← remoteAddr, ← localId, ← remoteId, ← auth, ← localTs, ← remoteTs, ← proposal,
    ← integ, ← dh]
  rfl

theorem child (tell : s.Tell args) : s.tunnelArgs.child = textOf .child args := by
  exact text_eq (tell.reads .child (by decide) nofun) rfl

theorem connFile (tell : s.Tell args) :
    s.tunnelArgs.connFile = (given .connFile args).head?.map Files.Path.ofText := by
  have values := Kind.path_values (tell.reads .connFile (by decide) nofun)
  exact congrArg (·.head?.map Files.Path.ofText) values

/-- A file is given once. -/
theorem given_connFile (tell : s.Tell args) (file : s.isSet .connFile = true) :
    ∃ path, given .connFile args = [path] := by
  have values : s.values .connFile = given .connFile args :=
    Kind.path_values (tell.reads .connFile (by decide) nofun)
  have several : given .connFile args ≠ [] := values ▸ Settings.isSet_iff.mp file
  have once : (given .connFile args).length ≤ 1 := values ▸ tell.once .connFile nofun
  apply List.length_eq_one_iff.mp
  exact Nat.le_antisymm once (List.length_pos_iff.mpr several)

/-- Beside a file there are no flags for a connection. -/
theorem no_flags (tell : s.Tell args) (file : s.isSet .connFile = true) (flag : o ∈ Opt.definitions) :
    ∀ text ∈ args, ¬ Names o text := by
  intro text among names
  have foreign : ∀ o ∈ Opt.definitions, o ∉ Level.top.options := by decide
  have clash : ∀ o ∈ Opt.definitions, Opt.clashes .connFile o = true := by decide
  have compatible := tell.compatible .connFile o file (tell.isSet o (foreign o flag) text among names)
  rw [clash o flag] at compatible
  contradiction

end Settings.Tell

theorem Settings.command_tunnelTest {s : Settings} {verb : Verb} {a : TunnelArgs}
    (made : s.command verb = .ok (.tunnelTest a)) : a = s.tunnelArgs := by
  cases verb with
  | addSa =>
    obtain ⟨id, -, made⟩ := Result.ok_of_bind made
    obtain ⟨params, -, made⟩ := Result.ok_of_bind made
    cases made
  | delSa =>
    obtain ⟨id, -, made⟩ := Result.ok_of_bind made
    cases made
  | stats => cases made
  | tunnelTest =>
    cases made
    rfl

/-! ### The request -/

/-- Flags that a request can be made of. -/
structure FlagsKnown (args : List String) : Prop where
  conn : textOf .conn args ≠ ""
  child : textOf .child args ≠ ""
  auth : Algorithm.authMethods.Knows (textOf .auth args)
  proposal : ∀ name ∈ namesOf .proposal args, Algorithm.ciphers.Knows name
  integ : ∀ name ∈ namesOf .integ args, Algorithm.integrities.Knows name
  dh : ∀ name ∈ namesOf .dh args, Algorithm.groups.Knows name

/-- The names among the requirements of flags. -/
def nameRequirements (args : List String) : List Requirement :=
  (namesOf .proposal args).map Algorithm.ciphers.requirement ++
    (namesOf .integ args).map Algorithm.integrities.requirement ++
    (namesOf .dh args).map Algorithm.groups.requirement

theorem flag_requirements : (flagDefinition args).requirements = (flagDefinition args).ownRequirements ++
    [Algorithm.authMethods.requirement (textOf .auth args), Algorithm.authMethods.requirement (textOf .auth args),
      ⟨textOf .child args ≠ "", .invalidConfig "child" "name is empty"⟩] ++ nameRequirements args := by
  simp [Definition.requirements, flagDefinition, ChildDefinition.requirements, Proposal.requirements, nameRequirements]

theorem own_requirements : (∀ r ∈ (flagDefinition args).ownRequirements, r.holds) ↔ textOf .conn args ≠ "" := by
  simp [Definition.ownRequirements, flagDefinition]

theorem flagDefinition_requirements :
    (∀ r ∈ (flagDefinition args).requirements, r.holds) ↔ FlagsKnown args := by
  rw [flag_requirements]
  simp only [List.forall_mem_append, own_requirements, nameRequirements, List.forall_mem_map, List.forall_mem_cons]
  constructor
  · rintro ⟨⟨conn, auth, -, child, -⟩, ⟨proposal, integ⟩, dh⟩
    exact ⟨conn, child, auth, proposal, integ, dh⟩
  · rintro ⟨conn, child, auth, proposal, integ, dh⟩
    exact ⟨⟨conn, auth, auth, child, nofun⟩, ⟨proposal, integ⟩, dh⟩

/-- What flags violate is a name that is empty or not known. -/
theorem flag_violation {r : Requirement} (among : r ∈ (flagDefinition args).requirements) (violated : ¬ r.holds)
    {field message : String} (invalid : r.violation = .invalidConfig field message) : message = "name is empty" := by
  rw [flag_requirements] at among
  obtain among | among := List.mem_append.mp among
  · obtain own | fixed := List.mem_append.mp among
    · simp only [Definition.ownRequirements, List.mem_cons] at own
      obtain rfl | rfl | rfl | none := own
      · cases invalid
        rfl
      -- The version is fixed and there is a child, so that these are not violated.
      · exact absurd (.inr rfl) violated
      · exact absurd nofun violated
      · contradiction
    · simp only [List.mem_cons] at fixed
      obtain rfl | rfl | rfl | none := fixed
      · cases invalid
      · cases invalid
      · cases invalid
        rfl
      · contradiction
  · have unknown : ∃ kind name, r.violation = .unknownName kind name := by
      simp only [nameRequirements, List.mem_append, List.mem_map] at among
      obtain (⟨name, -, rfl⟩ | ⟨name, -, rfl⟩) | ⟨name, -, rfl⟩ := among <;> exact ⟨_, name, rfl⟩
    obtain ⟨kind, name, unknown⟩ := unknown
    rw [unknown] at invalid
    cases invalid

/-- Where the child is among those of the connection, a request requires nothing more than the connection. -/
theorem loadRequest_requires {config : Config} (present : (config.definition.child? config.child).isSome = true) :
    Requires config.loadRequest config.definition.requirements := by
  unfold Config.loadRequest
  rw [if_neg (by rw [Option.isNone_iff_eq_none]; exact Option.isSome_iff_ne_none.mp present)]
  exact config.definition.message_requires.map fun connection => ({ connection } : Message.LoadConnRequest)

theorem flag_child? : ((flagDefinition args).child? (textOf .child args)).isSome = true := by
  rw [Definition.child?, List.find?_isSome]
  exact ⟨_, List.mem_singleton_self _, decide_eq_true rfl⟩

theorem flag_loadRequest {config : Config} (definition : config.definition = flagDefinition args)
    (child : config.child = textOf .child args) :
    ((∃ request, config.loadRequest = .ok request) ↔ FlagsKnown args) ∧
      ∀ field message, config.loadRequest = .error (.invalidConfig field message) → message = "name is empty" := by
  have requires : Requires config.loadRequest (flagDefinition args).requirements := by
    rw [← definition]
    apply loadRequest_requires
    rw [definition, child]
    exact flag_child?
  constructor
  · rw [← flagDefinition_requirements]
    exact requires.accepts
  · intro field message refused
    obtain ⟨r, among, violated, invalid⟩ := ((requires.refuses _).mp refused).violates
    exact flag_violation among violated invalid.symm

/-! ### File or flags -/

theorem TunnelArgs.config_file {a : TunnelArgs} {path : Files.Path} (file : a.connFile = some path)
    (files : Files.Reader) (timeout : Duration) :
    (a.config files timeout).map (·.definition) = Definition.load files path := by
  unfold TunnelArgs.config
  rw [file]
  dsimp only
  cases Definition.load files path with
  | error e => rfl
  | ok definition => rfl

/-- A tunnel test takes its connection from the file that the arguments give, and then they give no flag for a
connection; or else from their flags, and what is wrong then is a name that is empty or not known. -/
theorem Invocation.connection_of_file_or_flags {i : Invocation} {a : TunnelArgs}
    (accepted : Invocation.parse args = .ok i) (command : i.command = .tunnelTest a) (files : Files.Reader)
    (timeout : Duration) :
    ((∃ text ∈ args, Names .connFile text) →
      ∃ path, given .connFile args = [path] ∧ (∀ o ∈ Opt.definitions, ∀ text ∈ args, ¬ Names o text) ∧
        (a.config files timeout).map (·.definition) = Definition.load files (.ofText path)) ∧
    ((∀ text ∈ args, ¬ Names .connFile text) →
      ∃ config, a.config files timeout = .ok config ∧ config.definition = flagDefinition args ∧
        config.child = textOf .child args ∧
        ((∃ request, config.loadRequest = .ok request) ↔ FlagsKnown args) ∧
        ∀ field message, config.loadRequest = .error (.invalidConfig field message) → message = "name is empty") := by
  obtain ⟨verb, s, made, tell⟩ := parse_tells accepted
  rw [command] at made
  obtain rfl := Settings.command_tunnelTest made
  constructor
  · rintro ⟨text, among, names⟩
    have file := tell.isSet .connFile (by decide) text among names
    obtain ⟨path, once⟩ := tell.given_connFile file
    have connFile : s.tunnelArgs.connFile = some (.ofText path) := by
      rw [tell.connFile, once, List.head?_cons, Option.map_some]
    refine ⟨path, once, ?_, TunnelArgs.config_file connFile files timeout⟩
    intro o flag
    exact tell.no_flags file flag
  · intro absent
    have nothing : given .connFile args = [] := by
      rw [← List.append_nil args]
      exact given_append absent
    have connFile : s.tunnelArgs.connFile = none := by
      rw [tell.connFile, nothing, List.head?_nil, Option.map_none]
    unfold TunnelArgs.config
    rw [connFile]
    exact ⟨_, rfl, tell.definition, tell.child, flag_loadRequest tell.definition tell.child⟩

/-- Flags in both spellings, between other options, and a list that comes twice. -/
def flagArguments : List String :=
  ["--timeout=7", "tunnel-test", "--proposal=aes_cbc,AES_CBC", "--child", "net", "--conn", "vpn=a", "-l", "warn",
    "--proposal", "null", "--addr", "tunnel-test"]

def fileArguments : List String := ["tunnel-test", "--child=net", "--conn-file", "conn=.json", "--tls=a:b:c"]

/-- A system on which there is no file. -/
def noFiles : Files.Reader := fun _ => .error .notFound

theorem connection_of_file_or_flags_each :
    (∃ i a, Invocation.parse fileArguments = .ok i ∧ i.command = .tunnelTest a ∧
      (a.config noFiles i.timeout).map (·.definition) = Definition.load noFiles (.ofText "conn=.json")) ∧
    ∃ i a config request, Invocation.parse flagArguments = .ok i ∧ i.command = .tunnelTest a ∧
      a.config noFiles i.timeout = .ok config ∧ config.definition.name = "vpn=a" ∧
      config.definition.children.map (·.proposal.ciphers) = [["aes_cbc", "AES_CBC", "null"]] ∧
      config.loadRequest = .ok request := by
  constructor
  · have named : ∃ text ∈ fileArguments, Names .connFile text :=
      ⟨"--conn-file", by decide +kernel, none, by decide +kernel⟩
    have whole : given .connFile fileArguments = ["conn=.json"] := by decide +kernel
    obtain ⟨i, a, accepted, command⟩ :
      ∃ i a, Invocation.parse fileArguments = .ok i ∧ i.command = .tunnelTest a := ⟨_, _, rfl, rfl⟩
    obtain ⟨path, once, -, loaded⟩ :=
      (Invocation.connection_of_file_or_flags accepted command noFiles i.timeout).1 named
    obtain rfl : "conn=.json" = path := List.singleton_inj.mp (whole.symm.trans once)
    exact ⟨i, a, accepted, command, loaded⟩
  · have absent : ∀ text ∈ flagArguments, ¬ Names .connFile text := by decide +kernel
    have known : FlagsKnown flagArguments := by
      constructor <;> decide +kernel
    have name : textOf .conn flagArguments = "vpn=a" := by decide +kernel
    have ciphers : namesOf .proposal flagArguments = ["aes_cbc", "AES_CBC", "null"] := by decide +kernel
    obtain ⟨i, a, accepted, command⟩ :
      ∃ i a, Invocation.parse flagArguments = .ok i ∧ i.command = .tunnelTest a := ⟨_, _, rfl, rfl⟩
    obtain ⟨config, made, definition, -, loads, -⟩ :=
      (Invocation.connection_of_file_or_flags accepted command noFiles i.timeout).2 absent
    obtain ⟨request, loaded⟩ := loads.mpr known
    refine ⟨i, a, config, request, accepted, command, made, ?_, ?_, loaded⟩
    · rw [definition]
      exact name
    · rw [definition]
      exact congrArg (fun names => [names]) ciphers

end IPsecControl.CommandLine
