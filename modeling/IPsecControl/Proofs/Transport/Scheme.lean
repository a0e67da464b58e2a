import IPsecControl.Proofs.Text.Blank
import IPsecControl.Proofs.Text.Scan
import IPsecControl.Transport.Endpoint

/-! Schemes of endpoints. An endpoint without a mark of a scheme gets one, `https` if and only if there are
files for TLS. An endpoint with a mark anywhere stays as it is: its scheme may be another one, or the mark may
stand behind the host. -/
namespace IPsecControl.Transport
open Text
variable {cs scheme address : List Char}

def mark : List Char := [':', '/', '/']

/-- Letters, the mark, and what stands behind it. -/
structure Schemed (cs scheme address : List Char) : Prop where
  some : scheme ≠ []
  letters : ∀ c ∈ scheme, c.isAlpha = true
  whole : cs = scheme ++ (mark ++ address)

theorem Schemed.taken (schemed : Schemed cs scheme address) {p : Char → Bool}
    (letters : ∀ c, c.isAlpha = true → p c = true) (colon : p ':' = false) :
    cs.takeWhile p = scheme ∧ cs.dropWhile p = mark ++ address := by
  rw [schemed.whole]
  exact takeWhile_append (fun c member => letters c (schemed.letters c member)) (head_stops colon _)

/-- Host, port and path: what stands behind the scheme of an endpoint, or all of an endpoint without one. -/
def IsAddress (endpoint address : List Char) : Prop :=
  (∃ scheme, Schemed endpoint scheme address) ∨
    (∀ scheme rest, ¬ Schemed endpoint scheme rest) ∧ address = endpoint

def https : List Char := ['h', 't', 't', 'p', 's']

theorem Schemed.marked (schemed : Schemed cs scheme address) : mark <:+: cs :=
  ⟨scheme, address, by rw [schemed.whole, List.append_assoc]⟩

/-! ### Reading a URI -/

theorem isSchemeChar_of_isAlpha (c : Char) (letter : c.isAlpha = true) : Uri.isSchemeChar c = true := by
  simp [Uri.isSchemeChar, Char.isAlphanum, letter]

theorem isAlpha_of_toLower {c : Char} (letter : c.toLower.isAlpha = true) : c.isAlpha = true := by
  unfold Char.toLower at letter
  split at letter
  next upper => exact Bool.or_eq_true_iff.mpr (.inl (decide_eq_true upper))
  next => exact letter

/-- Whether a text begins with the scheme `https`, in letters of either case. -/
def BeginsSecure (cs : List Char) : Prop :=
  ∃ scheme address, Schemed cs scheme address ∧ scheme.map Char.toLower = https

theorem beginsSecure_iff {front rest : List Char} (whole : cs = front ++ (mark ++ rest))
    (stops : cs.takeWhile Uri.isSchemeChar = front) :
    BeginsSecure cs ↔ front.map Char.toLower = https := by
  constructor
  · rintro ⟨scheme, address, schemed, secure⟩
    have taken := (schemed.taken isSchemeChar_of_isAlpha rfl).1
    rwa [← stops, taken]
  · intro secure
    refine ⟨front, rest, ⟨?_, ?_, whole⟩, secure⟩
    · rintro rfl
      contradiction
    · intro c member
      have among : c.toLower ∈ https := secure ▸ List.mem_map_of_mem member
      have letters : ∀ d ∈ https, d.isAlpha = true := List.all_eq_true.mp (by decide)
      exact isAlpha_of_toLower (letters _ among)

/-- A scheme is read as `https` if it is that, but for the case of its letters. -/
theorem takeScheme?_https {scheme? : Option (List Char)} {rest : List Char}
    (taken : Uri.takeScheme? cs = some (scheme?, rest)) : scheme? = some https ↔ BeginsSecure cs := by
  unfold Uri.takeScheme? at taken
  dsimp only at taken
  split at taken
  next none =>
    cases taken
    constructor
    · rintro ⟨⟩
    · rintro ⟨scheme, address, schemed, -⟩
      have front := (schemed.taken isSchemeChar_of_isAlpha rfl).1
      rw [front, schemed.whole, List.drop_left] at none
      rw [show ([':', '/', '/'] : List Char) = mark from rfl, literal?_append] at none
      contradiction
  next after found =>
    have whole : cs = cs.takeWhile Uri.isSchemeChar ++ (mark ++ after) := by
      have behind := eq_append_of_literal? found
      rw [drop_takeWhile] at behind
      exact behind ▸ List.takeWhile_append_dropWhile.symm
    rw [beginsSecure_iff whole rfl, ← map_lowerAscii]
    split at taken
    next web =>
      cases taken
      exact Option.some_inj
    next other =>
      have insecure : ¬ (cs.takeWhile Uri.isSchemeChar).map lowerAscii = https := fun same => other (.inr same)
      split at taken
      next =>
        cases taken
        simp [insecure]
      next =>
        split at taken
        next => contradiction
        next =>
          cases taken
          simp only [insecure, iff_false]
          intro same
          apply insecure
          rw [Option.some.inj same]
          decide

theorem not_beginsSecure {c : Char} (first : cs.head? = some c) (other : c.isAlpha = false) :
    ¬ BeginsSecure cs := by
  rintro ⟨scheme, address, ⟨some, letters, rfl⟩, -⟩
  obtain ⟨d, rest, rfl⟩ := List.exists_cons_of_ne_nil some
  obtain rfl : d = c := Option.some.inj first
  exact Bool.eq_false_iff.mp other (letters d List.mem_cons_self)

theorem parse?_https {text : String} {uri : Uri} (read : Uri.parse? text = some uri) :
    uri.scheme = some https ↔ BeginsSecure text.toList := by
  unfold Uri.parse? at read
  dsimp only at read
  split at read
  next => contradiction
  split at read
  next star =>
    cases read
    have first : text.toList.head? = some '*' := by rw [star]; rfl
    exact iff_of_false nofun (not_beginsSecure first rfl)
  split at read
  next slash =>
    obtain ⟨⟨path, query⟩, -, rfl⟩ := Option.map_eq_some_iff.mp read
    exact iff_of_false nofun (not_beginsSecure slash rfl)
  next =>
    obtain ⟨⟨scheme?, rest⟩, taken, read⟩ := Option.bind_eq_some_iff.mp read
    rw [← takeScheme?_https taken]
    dsimp only at read
    split at read
    next => contradiction
    split at read
    next alone =>
      rw [Option.isNone_iff_eq_none.mp alone]
      split at read
      next =>
        cases read
        rfl
      next => contradiction
    split at read
    next => contradiction
    obtain ⟨⟨path, query⟩, -, read⟩ := Option.bind_eq_some_iff.mp read
    cases read
    rfl

/-! ### Endpoints -/

namespace Config
variable (c : Config)

/-- The URI is a scheme and the address of the endpoint, and where there are files for TLS the scheme is one
that makes use of them. -/
def Secured : Prop :=
  ∃ scheme address, Schemed c.uri.toList scheme address ∧ IsAddress c.endpoint.toList address ∧
    (c.tls.isSome = true → scheme.map Char.toLower = https)

variable {c}

theorem uri_marked (marked : mark <:+: c.endpoint.toList) : c.uri = c.endpoint :=
  if_pos (firstMatch?_literal_iff.mpr marked)

theorem uri_unmarked (unmarked : ¬ mark <:+: c.endpoint.toList) :
    c.uri = (if c.tls.isSome then "https://" else "http://") ++ c.endpoint := by
  refine (if_neg (mt firstMatch?_literal_iff.mp unmarked)).trans ?_
  split <;> rfl

theorem secured_unmarked (unmarked : ¬ mark <:+: c.endpoint.toList) : c.Secured := by
  refine ⟨if c.tls.isSome then https else ['h', 't', 't', 'p'], c.endpoint.toList, ?_, ?_, ?_⟩
  · constructor
    · split <;> exact List.cons_ne_nil _ _
    · split <;> exact List.all_eq_true.mp (by decide)
    · rw [uri_unmarked unmarked, String.toList_append]
      split <;> rfl
  · right
    exact ⟨fun _ _ schemed => unmarked schemed.marked, rfl⟩
  · intro tls
    rw [if_pos tls]
    rfl

theorem secured_marked (marked : mark <:+: c.endpoint.toList) :
    c.Secured ↔ ∃ scheme address, Schemed c.endpoint.toList scheme address ∧
      (c.tls.isSome = true → scheme.map Char.toLower = https) := by
  rw [Secured, uri_marked marked]
  constructor
  · rintro ⟨scheme, address, schemed, -, secure⟩
    exact ⟨scheme, address, schemed, secure⟩
  · rintro ⟨scheme, address, schemed, secure⟩
    exact ⟨scheme, address, schemed, .inl ⟨scheme, schemed⟩, secure⟩

theorem parse?_of_resolve {files : Files.Reader} {uri : Uri} (resolved : (c.resolve files).result = .ok uri) :
    Uri.parse? c.uri = some uri := by
  unfold resolve at resolved
  split at resolved
  next => contradiction
  next read _ =>
    cases resolved
    exact read
  next read _ =>
    split at resolved
    next => contradiction
    next =>
      split at resolved
      next =>
        cases resolved
        exact read
      next => contradiction

/-- An endpoint without a mark is given a scheme, and one that makes use of the files for TLS if there are any. An
endpoint with a mark is kept as it is, so that all depends on whether it begins with a scheme, and with which.
Where there are files for TLS, the URI that is connected to has the scheme that makes use of them if and only
if the URI is secured. -/
theorem uri_secured_iff (c : Config) :
    (¬ mark <:+: c.endpoint.toList →
      c.uri = (if c.tls.isSome then "https://" else "http://") ++ c.endpoint ∧ c.Secured) ∧
    (mark <:+: c.endpoint.toList → c.uri = c.endpoint ∧
      (c.Secured ↔ ∃ scheme address, Schemed c.endpoint.toList scheme address ∧
        (c.tls.isSome = true → scheme.map Char.toLower = https))) ∧
    ∀ files uri, c.tls.isSome = true → (c.resolve files).result = .ok uri →
      (uri.scheme = some https ↔ c.Secured) := by
  refine ⟨?_, ?_, ?_⟩
  · intro unmarked
    exact ⟨uri_unmarked unmarked, secured_unmarked unmarked⟩
  · intro marked
    exact ⟨uri_marked marked, secured_marked marked⟩
  · intro files uri tls resolved
    rw [parse?_https (parse?_of_resolve resolved)]
    constructor
    · rintro ⟨scheme, address, schemed, secure⟩
      by_cases marked : mark <:+: c.endpoint.toList
      · rw [uri_marked marked] at schemed
        exact (secured_marked marked).mpr ⟨scheme, address, schemed, fun _ => secure⟩
      · exact secured_unmarked marked
    · rintro ⟨scheme, address, schemed, -, secure⟩
      exact ⟨scheme, address, schemed, secure tls⟩

def credentials : TlsFiles := ⟨.ofText "client.crt", .ofText "client.key", .ofText "ca.crt"⟩

theorem uri_secured_iff_in_capitals :
    mark <:+: "HTTPS://dpu:50151/a".toList ∧
    ({ endpoint := "HTTPS://dpu:50151/a", tls := some credentials } : Config).Secured ∧
    ¬ mark <:+: "[::1]:50151".toList ∧
    ({ endpoint := "[::1]:50151", tls := some credentials } : Config).uri = "https://[::1]:50151" := by
  have marked : mark <:+: "HTTPS://dpu:50151/a".toList := by decide +kernel
  have unmarked : ¬ mark <:+: "[::1]:50151".toList := by decide +kernel
  obtain ⟨-, kept, -⟩ := uri_secured_iff { endpoint := "HTTPS://dpu:50151/a", tls := some credentials }
  obtain ⟨given, -⟩ := uri_secured_iff { endpoint := "[::1]:50151", tls := some credentials }
  have schemed : Schemed "HTTPS://dpu:50151/a".toList "HTTPS".toList "dpu:50151/a".toList :=
    ⟨by decide +kernel, List.all_eq_true.mp (by decide +kernel), by decide +kernel⟩
  have secured := (kept marked).2.mpr ⟨_, _, schemed, fun _ => by decide +kernel⟩
  exact ⟨marked, secured, unmarked, (given unmarked).1⟩

/-- An endpoint with another scheme keeps it in spite of files for TLS, and a mark in a path leaves an endpoint
without a scheme. -/
theorem other_scheme_unsecured :
    ¬ ({ endpoint := "http://dpu:50151", tls := some credentials } : Config).Secured ∧
    ({ endpoint := "http://dpu:50151", tls := some credentials } : Config).uri = "http://dpu:50151" ∧
    ¬ ({ endpoint := "dpu:50151/a://b" } : Config).Secured ∧
    ({ endpoint := "dpu:50151/a://b" } : Config).uri = "dpu:50151/a://b" := by
  refine ⟨?_, by decide +kernel, ?_, by decide +kernel⟩
  · intro secured
    obtain ⟨scheme, address, schemed, secure⟩ := (secured_marked (by decide +kernel)).mp secured
    obtain ⟨front, -⟩ := schemed.taken (p := Char.isAlpha) (fun _ => id) rfl
    have plain : "http://dpu:50151".toList.takeWhile Char.isAlpha = "http".toList := by decide +kernel
    rw [← front, plain] at secure
    exact absurd (secure rfl) (by decide +kernel)
  · intro secured
    obtain ⟨scheme, address, schemed, -⟩ := (secured_marked (by decide +kernel)).mp secured
    obtain ⟨-, behind⟩ := schemed.taken (p := Char.isAlpha) (fun _ => id) rfl
    have host : "dpu:50151/a://b".toList.dropWhile Char.isAlpha = ':' :: "50151/a://b".toList := by
      decide +kernel
    rw [host] at behind
    have digit : "50151/a://b".toList.head? = some '/' := congrArg List.head? (List.tail_eq_of_cons_eq behind)
    exact absurd digit (by decide +kernel)

end Config
end IPsecControl.Transport
