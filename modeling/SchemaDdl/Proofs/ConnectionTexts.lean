import SchemaDdl.Config.Basic
import SchemaDdl.Proofs.DividedTexts

/-!
# What a connection text says

A connection text is one line of five parts: who connects, as a user and perhaps
a password, and where to, as a host, a port and a database. Three characters
divide it, and they are written as they are wherever they stand in a part. So two
configurations may have one text: `app:pw` may be a user, or a user and a
password, and an `@` or a `/` can be moved from one part to the next in the same
way.

A character does so only if it stands in a part before its place in one of the
two configurations and in a part behind its place in the other. `Apart` says
that none does, and then the text determines everything that a connection is
made with. Of a configuration alone it is enough that its user has no colon, its
host neither `@` nor `/` and its database no `@`; nothing is asked of the
password.
-/

namespace SchemaDdl

/-- What a connection is made with. -/
structure Access where
  user : String
  password : Option String
  host : String
  port : UInt16
  database : String
deriving DecidableEq

namespace DatabaseConfig

variable {d d' : DatabaseConfig}

/-- Without a user it is `root` who connects, and an empty password is none. -/
def access (d : DatabaseConfig) : Access where
  user := d.effectiveUser
  password := d.effectivePassword
  host := d.host
  port := d.port
  database := d.database

/-! ## The parts of the text -/

/-- Who connects. -/
def credentials (d : DatabaseConfig) : List Char :=
  match d.effectivePassword with
  | some p => d.effectiveUser.toList ++ ':' :: p.toList
  | none => d.effectiveUser.toList

theorem credentials_of_none (h : d.effectivePassword = none) :
    d.credentials = d.effectiveUser.toList := by
  rw [credentials, h]

theorem credentials_of_some {p : String} (h : d.effectivePassword = some p) :
    d.credentials = d.effectiveUser.toList ++ ':' :: p.toList := by
  rw [credentials, h]

def address (d : DatabaseConfig) : List Char :=
  d.host.toList ++ ':' :: (toString d.port.toNat).toList

/-- Where to. -/
def location (d : DatabaseConfig) : List Char := d.address ++ '/' :: d.database.toList

theorem toList_connectionText (d : DatabaseConfig) :
    d.connectionText.toList = "mysql://".toList ++ (d.credentials ++ '@' :: d.location) := by
  unfold connectionText location address
  cases hp : d.effectivePassword with
  | none =>
      rw [credentials_of_none hp]
      simp only [String.toList_append, List.append_assoc]
      rfl
  | some p =>
      rw [credentials_of_some hp]
      simp only [String.toList_append, List.append_assoc]
      rfl

theorem mem_address_iff {c : Char} (hc : c.isDigit = false) (hcolon : c ≠ ':') :
    c ∈ d.address ↔ c ∈ d.host.toList := by
  rw [address, List.mem_append, List.mem_cons, or_iff_left]
  rintro (h | h)
  · exact hcolon h
  · exact Text.not_mem_toString hc _ h

/-! ## Configurations that do not get mixed up -/

/-- No dividing character stands in a part of the one before its place and in a part of the other
behind it. The colon before the port is not among them, since a port is a number. -/
structure Apart (d d' : DatabaseConfig) : Prop where
  user : ':' ∉ d.effectiveUser.toList ∨ d'.effectivePassword = none
  credentials : '@' ∉ d.credentials ∨ '@' ∉ d'.location
  host : '/' ∉ d.host.toList ∨ '/' ∉ d'.database.toList

/-- A configuration that is apart from each of its kind. -/
structure Plain (d : DatabaseConfig) : Prop where
  user : ':' ∉ d.effectiveUser.toList
  host : '/' ∉ d.host.toList
  host_at : '@' ∉ d.host.toList
  database : '@' ∉ d.database.toList

theorem Plain.not_mem_location (h : d.Plain) : '@' ∉ d.location := by
  rw [location, List.mem_append, mem_address_iff (by decide) (by decide), List.mem_cons]
  rintro (hhost | hslash | hdatabase)
  · exact h.host_at hhost
  · exact absurd hslash (by decide)
  · exact h.database hdatabase

theorem Plain.apart (h : d.Plain) (h' : d'.Plain) : d.Apart d' where
  user := .inl h.user
  credentials := .inr h'.not_mem_location
  host := .inl h.host

theorem credentials_inj (h : d.Apart d') (h' : d'.Apart d)
    (heq : d.credentials = d'.credentials) :
    d.effectiveUser = d'.effectiveUser ∧ d.effectivePassword = d'.effectivePassword := by
  -- A password in one of the two keeps the colon out of the user of the other.
  have hcolon : ∀ {a b : DatabaseConfig} {p : String}, a.Apart b →
      b.effectivePassword = some p → ':' ∉ a.effectiveUser.toList := fun hab hp =>
    hab.user.resolve_right (by rw [hp]; exact Option.some_ne_none _)
  cases hp : d.effectivePassword with
  | none =>
      rw [credentials_of_none hp] at heq
      cases hp' : d'.effectivePassword with
      | none =>
          rw [credentials_of_none hp'] at heq
          exact ⟨String.toList_inj.1 heq, rfl⟩
      | some p' =>
          rw [credentials_of_some hp'] at heq
          exact absurd (heq ▸ List.mem_append_right _ List.mem_cons_self) (hcolon h hp')
  | some p =>
      rw [credentials_of_some hp] at heq
      cases hp' : d'.effectivePassword with
      | none =>
          rw [credentials_of_none hp'] at heq
          exact absurd (heq ▸ List.mem_append_right _ List.mem_cons_self) (hcolon h' hp)
      | some p' =>
          rw [credentials_of_some hp'] at heq
          obtain ⟨huser, hpassword⟩ :=
            Text.divided_unique (.inl (hcolon h hp')) (.inl (hcolon h' hp)) heq
          exact ⟨String.toList_inj.1 huser, congrArg some (String.toList_inj.1 hpassword)⟩

theorem address_inj (heq : d.address = d'.address) : d.host = d'.host ∧ d.port = d'.port := by
  have hdigits (n : Nat) : ':' ∉ (toString n).toList := Text.not_mem_toString (by decide) n
  obtain ⟨hhost, hport⟩ := Text.divided_unique (.inr (hdigits _)) (.inr (hdigits _)) heq
  exact ⟨String.toList_inj.1 hhost, UInt16.toNat_inj.1 (Text.toString_nat_injective hport)⟩

theorem location_inj (h : d.Apart d') (h' : d'.Apart d) (heq : d.location = d'.location) :
    d.host = d'.host ∧ d.port = d'.port ∧ d.database = d'.database := by
  have hslash (a : DatabaseConfig) : '/' ∈ a.address ↔ '/' ∈ a.host.toList :=
    mem_address_iff (by decide) (by decide)
  have hhost := h.host
  have hhost' := h'.host
  rw [← hslash] at hhost hhost'
  obtain ⟨haddress, hdatabase⟩ := Text.divided_unique hhost hhost' heq
  obtain ⟨hhost, hport⟩ := address_inj haddress
  exact ⟨hhost, hport, String.toList_inj.1 hdatabase⟩

/-- Of configurations that do not get mixed up, two have one text exactly if they make the same
connection. -/
theorem connectionText_eq_iff (h : d.Apart d') (h' : d'.Apart d) :
    d.connectionText = d'.connectionText ↔ d.access = d'.access := by
  constructor
  · intro heq
    have hchars := congrArg String.toList heq
    rw [toList_connectionText, toList_connectionText] at hchars
    obtain ⟨hcredentials, hlocation⟩ :=
      Text.divided_unique h.credentials h'.credentials (List.append_cancel_left hchars)
    obtain ⟨huser, hpassword⟩ := credentials_inj h h' hcredentials
    obtain ⟨hhost, hport, hdatabase⟩ := location_inj h h' hlocation
    rw [access, access, huser, hpassword, hhost, hport, hdatabase]
  · intro heq
    obtain ⟨huser, hpassword, hhost, hport, hdatabase⟩ := Access.mk.inj heq
    rw [connectionText, connectionText, huser, hpassword, hhost, hport, hdatabase]

/-- Two passwords of which one goes on with more separators, and a password that is none. -/
theorem connectionText_separators :
    let long : DatabaseConfig := { database := "shop", user := some "app", password := some "p@x:/y" }
    let short : DatabaseConfig := { database := "shop", user := some "app", password := some "p@x" }
    let root : DatabaseConfig := { database := "shop", user := some "root", password := some "" }
    let unset : DatabaseConfig := { database := "shop", timeout := some 5 }
    (long.Apart short ∧ short.Apart long ∧ long.connectionText ≠ short.connectionText) ∧
      root.Apart unset ∧ unset.Apart root ∧ root.connectionText = unset.connectionText := by
  intro long short root unset
  have hlong : long.Plain := ⟨by decide, by decide, by decide, by decide⟩
  have hshort : short.Plain := ⟨by decide, by decide, by decide, by decide⟩
  have hroot : root.Plain := ⟨by decide, by decide, by decide, by decide⟩
  have hunset : unset.Plain := ⟨by decide, by decide, by decide, by decide⟩
  refine ⟨⟨hlong.apart hshort, hshort.apart hlong, ?_⟩, hroot.apart hunset, hunset.apart hroot, ?_⟩
  · exact mt (connectionText_eq_iff (hlong.apart hshort) (hshort.apart hlong)).1 (by decide)
  · exact (connectionText_eq_iff (hroot.apart hunset) (hunset.apart hroot)).2 (by decide)

/-- A colon in the user, an `@` in the user and one in the host, a slash in the host and one in the
database: each gives one text to two configurations. -/
theorem connectionText_shared :
    let colon : DatabaseConfig := { database := "shop", user := some "app:pw" }
    let noColon : DatabaseConfig :=
      { database := "shop", user := some "app", password := some "pw" }
    let early : DatabaseConfig := { database := "shop", user := some "app", host := "db@h" }
    let late : DatabaseConfig := { database := "shop", user := some "app@db", host := "h" }
    let near : DatabaseConfig := { database := "a:1/b", host := "h", port := 1 }
    let far : DatabaseConfig := { database := "b", host := "h:1/a", port := 1 }
    (colon.connectionText = noColon.connectionText ∧ colon.access ≠ noColon.access) ∧
      (early.connectionText = late.connectionText ∧ early.access ≠ late.access) ∧
        near.connectionText = far.connectionText ∧ near.access ≠ far.access := by
  decide

end DatabaseConfig

end SchemaDdl
