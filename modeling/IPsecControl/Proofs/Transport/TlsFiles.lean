import IPsecControl.Proofs.Error.Requirements
import IPsecControl.Proofs.Files.Path
import IPsecControl.Proofs.Text.Split
import IPsecControl.Transport.TlsFiles

/-! Specs of TLS files. A spec is read as the paths between its colons, and writing them gives it back. Paths
are read back from what they are written as if and only if they are texts that a colon can be told from. -/
namespace IPsecControl.Transport.TlsFiles
open Text Files
variable {spec : String} {t : TlsFiles}

def paths (t : TlsFiles) : List Path := [t.clientCert, t.clientKey, t.caCert]

theorem paths_injective : Function.Injective paths := by
  rintro ⟨cert, key, ca⟩ ⟨cert', key', ca'⟩ same
  simpa [paths] using same

/-- The paths in a spec. -/
def parts (spec : String) : List Path := (spec.toList.splitOn ':').map fun part => .ofText (.ofList part)

/-- A character that is not blank. -/
def Visible (cs : List Char) : Prop := ∃ c ∈ cs, isBlank c = false

instance (cs : List Char) : Decidable (Visible cs) := List.decidableBEx (isBlank · = false) cs

/-- Two colons, and between them in each place something that can be seen. -/
def requirements (spec : String) : List Requirement :=
  ⟨spec.toList.count ':' = 2, .tlsSpec ("expected 'client_cert:client_key:ca_cert', got " ++
    decimal (spec.toList.splitOn ':').length ++ " component(s) in '" ++ spec ++ "'")⟩ ::
  (["client_cert", "client_key", "ca_cert"].zip (spec.toList.splitOn ':')).map fun (name, part) =>
    ⟨Visible part, .tlsSpec (name ++ " is empty")⟩

theorem visible_iff (part : List Char) : Visible part ↔ ¬ (!isPath part) = true := by
  rw [isPath, Bool.not_not, List.all_eq_true, Visible, not_forall]
  simp

theorem text_toList (t : TlsFiles) :
    t.text.toList = [':'].intercalate (t.paths.map (·.display.toList)) := by
  simp [text, paths, List.intercalate]

/-- What is shown of the paths of a spec stands between its colons. -/
theorem parts_shown (spec : String) : (parts spec).map (·.display.toList) = spec.toList.splitOn ':' := by
  simp [parts, Function.comp_def]

/-- Paths without colons are the parts of what they are written as, when they are texts. -/
theorem parts_text (apart : ∀ path ∈ t.paths, path.IsText ∧ ':' ∉ path.display.toList) :
    parts t.text = t.paths := by
  have split : t.text.toList.splitOn ':' = t.paths.map (·.display.toList) := by
    rw [text_toList]
    apply List.splitOn_intercalate
    · intro part among
      obtain ⟨path, member, rfl⟩ := List.mem_map.mp among
      exact (apart path member).2
    · exact List.cons_ne_nil _ _
  rw [parts, split, List.map_map]
  refine (List.map_congr_left fun path member => ?_).trans (List.map_id _)
  simpa using Path.isText_iff.mp (apart path member).1

theorem parse_requires (spec : String) : Requires (parse spec) (requirements spec) := by
  have parts := length_splitOn ':' spec.toList
  rw [parse, requirements, split_eq]
  split
  next cert key ca three =>
    rw [three] at parts ⊢
    refine .met (Nat.succ.inj parts).symm ?_
    refine .check (visible_iff cert) fun _ => ?_
    refine .check (visible_iff key) fun _ => ?_
    exact .check (visible_iff ca) fun _ => .ok _
  next others =>
    refine .broken ?_ _
    intro two
    rw [two] at parts
    obtain ⟨cert, key, ca, three⟩ := List.length_eq_three.mp parts
    exact others cert key ca three

theorem requirements_hold_iff : (∀ r ∈ requirements spec, r.holds) ↔
    spec.toList.count ':' = 2 ∧ ∀ part ∈ spec.toList.splitOn ':', Visible part := by
  rw [requirements, List.forall_mem_cons]
  refine and_congr_right fun two => ?_
  have parts := length_splitOn ':' spec.toList
  rw [two] at parts
  obtain ⟨cert, key, ca, three⟩ := List.length_eq_three.mp parts
  rw [three]
  simp

theorem tlsSpec_of_violation {e : Error} (first : FirstViolation (requirements spec) e) :
    ∃ text, e = .tlsSpec text := by
  obtain ⟨r, member, -, rfl⟩ := first.violates
  obtain rfl | member := List.mem_cons.mp member
  · exact ⟨_, rfl⟩
  · obtain ⟨⟨name, part⟩, -, rfl⟩ := List.mem_map.mp member
    exact ⟨_, rfl⟩

theorem paths_of_parse (read : parse spec = .ok t) : t.paths = parts spec := by
  rw [parse, split_eq] at read
  split at read
  next cert key ca three =>
    -- A value comes only from behind the three checks, and is made of the parts.
    split at read
    next => contradiction
    split at read
    next => contradiction
    split at read
    next => contradiction
    cases read
    simp only [parts, three, paths, List.map_cons, List.map_nil]
  next => contradiction

theorem parse_eq_ok_iff : parse spec = .ok t ↔
    t.paths = parts spec ∧ spec.toList.count ':' = 2 ∧ ∀ part ∈ spec.toList.splitOn ':', Visible part := by
  have accepts := (parse_requires spec).accepts.trans requirements_hold_iff
  constructor
  · intro read
    exact ⟨paths_of_parse read, accepts.mp ⟨t, read⟩⟩
  · rintro ⟨same, accepted⟩
    obtain ⟨t', read⟩ := accepts.mpr accepted
    rw [read, paths_injective ((paths_of_parse read).trans same.symm)]

/-- What is read is written as it was. -/
theorem text_of_parse (read : parse spec = .ok t) : t.text = spec := by
  rw [← String.toList_inj, text_toList, paths_of_parse read, parts_shown, List.intercalate_splitOn]

/-- Paths are read back if each of them is a text that can be told from the colons around it. -/
theorem parse_text_iff : parse t.text = .ok t ↔
    ∀ path ∈ t.paths, path.IsText ∧ ':' ∉ path.display.toList ∧ Visible path.display.toList := by
  rw [parse_eq_ok_iff]
  constructor
  · rintro ⟨same, -, visible⟩ path member
    rw [same] at member
    obtain ⟨part, among, rfl⟩ := List.mem_map.mp member
    rw [Path.display_ofText, String.toList_ofList]
    exact ⟨⟨_, rfl⟩, not_mem_of_mem_splitOn among, visible part among⟩
  · intro each
    have same : parts t.text = t.paths := by
      apply parts_text
      intro path member
      obtain ⟨text, plain, -⟩ := each path member
      exact ⟨text, plain⟩
    have shown := parts_shown t.text
    rw [same] at shown
    have length := length_splitOn ':' t.text.toList
    rw [← shown] at length ⊢
    refine ⟨same.symm, (Nat.succ.inj length).symm, ?_⟩
    intro part among
    obtain ⟨path, member, rfl⟩ := List.mem_map.mp among
    exact (each path member).2.2

/-- A spec is read if and only if there are two colons in it and no place between them is blank. Then the paths are
what stands in these places, and written they are the spec again; otherwise the error says what is wrong with the
spec, and is one of the configuration. Paths are read back from what they are written as if and only if each is a
text without a colon that is not blank. -/
theorem parse_inverts_text :
    (∀ spec,
      ((∃ t, parse spec = .ok t) ↔
        spec.toList.count ':' = 2 ∧ ∀ part ∈ spec.toList.splitOn ':', Visible part) ∧
      (∀ t, parse spec = .ok t →
        t.paths = (spec.toList.splitOn ':').map (fun part => .ofText (.ofList part)) ∧ t.text = spec) ∧
      ∀ e, parse spec = .error e →
        FirstViolation (requirements spec) e ∧ (∃ text, e = .tlsSpec text) ∧ e.isConfig = true) ∧
    ∀ t : TlsFiles, parse t.text = .ok t ↔
      ∀ path ∈ t.paths, path.IsText ∧ ':' ∉ path.display.toList ∧ Visible path.display.toList := by
  refine ⟨fun spec => ?_, fun t => parse_text_iff⟩
  have requires := parse_requires spec
  refine ⟨requires.accepts.trans requirements_hold_iff, ?_, ?_⟩
  · intro t read
    exact ⟨paths_of_parse read, text_of_parse read⟩
  · intro e refused
    have first := (requires.refuses e).mp refused
    obtain ⟨text, rfl⟩ := tlsSpec_of_violation first
    exact ⟨first, ⟨text, rfl⟩, rfl⟩

/-- Blanks around a path and inside it belong to it. -/
theorem parse_inverts_text_spaced :
    parse " my client.crt:k/../k.key:ca.crt\t" =
      .ok ⟨.ofText " my client.crt", .ofText "k/../k.key", .ofText "ca.crt\t"⟩ ∧
    parse "a:\u3000:c" = .error (.tlsSpec "client_key is empty") := by
  let t : TlsFiles := ⟨.ofText " my client.crt", .ofText "k/../k.key", .ofText "ca.crt\t"⟩
  have separable : ∀ path ∈ t.paths,
      path.IsText ∧ ':' ∉ path.display.toList ∧ Visible path.display.toList := by
    simp only [t, paths, List.forall_mem_cons, Path.display_ofText]
    exact ⟨⟨⟨_, rfl⟩, by decide⟩, ⟨⟨_, rfl⟩, by decide⟩, ⟨⟨_, rfl⟩, by decide⟩, List.forall_mem_nil _⟩
  have read := (parse_inverts_text.2 t).mpr separable
  have text : t.text = " my client.crt:k/../k.key:ca.crt\t" := by
    simp only [t, TlsFiles.text, Path.display_ofText]
    decide
  rw [text] at read
  exact ⟨read, by decide⟩

/-- A certificate under a name of one byte that is not UTF-8. -/
def foreign : TlsFiles := ⟨⟨[0xFF]⟩, .ofText "k", .ofText "ca"⟩

/-- It is written with a replacement character, and another name is read. -/
theorem foreign_path_lost :
    (∀ path ∈ foreign.paths, 0x3A ∉ path.bytes ∧ ':' ∉ path.display.toList ∧ Visible path.display.toList) ∧
    foreign.text = "\uFFFD:k:ca" ∧
    parse foreign.text = .ok ⟨.ofText "\uFFFD", .ofText "k", .ofText "ca"⟩ ∧
    parse foreign.text ≠ .ok foreign := by
  have shown : (⟨[0xFF]⟩ : Path).display = "\uFFFD" := by
    have replaced : Utf8.lossy [0xFF] = ['\uFFFD'] := by
      simp [Utf8.lossy.eq_def, Utf8.next, Utf8.lead?]
    rw [Path.display, replaced]
  have written : foreign.text = "\uFFFD:k:ca" := by
    simp only [foreign, text, shown, Path.display_ofText]
    decide
  have read : parse foreign.text = .ok ⟨.ofText "\uFFFD", .ofText "k", .ofText "ca"⟩ := by
    rw [written]
    decide
  refine ⟨?_, written, read, ?_⟩
  · simp only [foreign, paths, List.forall_mem_cons, shown, Path.display_ofText]
    exact ⟨by decide, by decide, by decide, List.forall_mem_nil _⟩
  · rw [read]
    decide

end IPsecControl.Transport.TlsFiles
