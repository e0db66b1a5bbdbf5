import Courier.Proofs.Base64Reading
import Courier.Proofs.FormReading
import Courier.Proofs.HeaderSteps

/-! # Names and passwords

A name and a password may hold anything, line ends and colons among it, but what is written of them
into a header are letters of base64, which may stand in any header. So no name and no password is a
fault, and whoever reads the header gets back the octets of both. Main statement: the setter for a
name and a password writes one value of one header and changes nothing else, and this value says in
base64 what it was given.
-/

namespace Courier

/-- A text without controls that has only ASCII characters is fit for a header. -/
theorem HeaderValue.ofBytes?_encode_of_visible {chars : List Char}
    (visible : ∀ c ∈ chars, 0x20 ≤ c.toNat ∧ c.toNat < 0x7F) :
    ofBytes? (Utf8.encode (String.ofList chars)) = some ⟨Utf8.encode (String.ofList chars)⟩ := by
  have octets : Utf8.encode (String.ofList chars) = Utf8.ascii chars :=
    Utf8.encode_ofList_of_ascii fun c member => by have := visible c member; omega
  have allowed : (Utf8.ascii chars).all isAllowed = true := by
    rw [List.all_eq_true]
    intro octet member
    obtain ⟨c, inside, rfl⟩ := List.mem_map.mp member
    obtain ⟨low, high⟩ := visible c inside
    have value : (UInt8.ofNat c.toNat).toNat = c.toNat :=
      UInt8.toNat_ofNat_of_lt' (high.trans (by decide))
    simp only [isAllowed, Bool.or_eq_true, Bool.and_eq_true, decide_eq_true_eq,
      UInt8.le_iff_toNat_le, ← UInt8.toNat_inj, ne_eq, value]
    exact .inl ⟨low, high.ne⟩
  rw [octets, ofBytes?, if_pos allowed]

namespace Base64

/-- The characters of a text that spells octets are visible. -/
theorem Spells.visible {text : List Char} {octets : Bytes} (spells : Spells text octets) :
    ∀ c ∈ text, 0x20 ≤ c.toNat ∧ c.toNat < 0x7F := by
  have letters : ∀ value < 64, 0x20 ≤ (letter value).toNat ∧ (letter value).toNat < 0x7F := by
    decide
  obtain ⟨front, padding, rfl, -, -, known, -⟩ := spells
  intro c member
  rcases List.mem_append.mp member with inFront | padded
  · obtain ⟨value, small, rfl⟩ := mem_alphabet_iff.mp (known c inFront)
    exact letters value small
  · rw [List.eq_of_mem_replicate padded]
    decide

end Base64

namespace Builder

variable (builder : Builder) (user : String) (password : Option String)

/-- A name, a colon and a password as octets. -/
def credentialOctets (user : String) (password : Option String) : Bytes :=
  Utf8.encode user ++ 0x3A :: Utf8.encode (password.getD "")

theorem basicCredentials_eq : basicCredentials user password =
    "Basic " ++ Base64.encode (credentialOctets user password) := by
  unfold basicCredentials credentialOctets
  rw [Utf8.encode_append, Utf8.encode_append, List.append_assoc]
  rfl

/-- Whatever the name and the password, they can be written into a header. -/
theorem ofBytes?_basicCredentials :
    HeaderValue.ofBytes? (Utf8.encode (basicCredentials user password)) =
      some ⟨Utf8.encode (basicCredentials user password)⟩ := by
  have visible : ∀ c ∈ "Basic ".toList ++
      Base64.encodeChars (credentialOctets user password), 0x20 ≤ c.toNat ∧ c.toNat < 0x7F := by
    have scheme : ∀ c ∈ "Basic ".toList, 0x20 ≤ c.toNat ∧ c.toNat < 0x7F := by simp
    rw [List.forall_mem_append]
    exact ⟨scheme, (Base64.spells_encodeChars _).visible⟩
  have text : basicCredentials user password =
      String.ofList ("Basic ".toList ++ Base64.encodeChars (credentialOctets user password)) := by
    rw [basicCredentials_eq, String.ofList_append, String.ofList_toList, Base64.encode]
  rw [text]
  exact HeaderValue.ofBytes?_encode_of_visible visible

/-- The setter for a name and a password has no fault. -/
theorem apply_basicAuth :
    builder.apply (.basicAuth user password) =
      { builder with
        headers := builder.headers.insert .authorization
          ⟨Utf8.encode (basicCredentials user password)⟩ } := by
  rw [apply, setText, setHeader, withHeader, ofBytes?_authorization, ofBytes?_basicCredentials]

/-- The setter for a name and a password changes nothing of a builder but one header, and notes no
fault. That header has one value then, whatever values it had; every other one keeps its values and
its place. The value is the word `Basic`, a space and the padded base64 text that spells the name, a
colon and the password, an absent one being empty, and that is read as these octets again. -/
theorem basic_credentials_written :
    let after := builder.apply (.basicAuth user password)
    after = { builder with headers := after.headers } ∧ after.deferred = builder.deferred ∧
      after.headers.names = (builder.headers.names ++ [HeaderName.authorization]).eraseDups ∧
      ∃ text : String,
        after.headers.values =
          Function.update builder.headers.values .authorization [⟨Utf8.encode ("Basic " ++ text)⟩] ∧
        Base64.Spells text.toList (credentialOctets user password) ∧
        Base64.decode? text = some (credentialOctets user password) := by
  intro after
  have made : after = _ := builder.apply_basicAuth user password
  have spells := Base64.spells_encode (credentialOctets user password)
  rw [made, basicCredentials_eq]
  refine ⟨rfl, rfl, Headers.names_change_eq .., _, ?_, spells,
    Base64.decode?_eq_some_iff.mpr spells⟩
  funext name
  rw [Headers.values_insert, Function.update_apply]

end Builder

end Courier
