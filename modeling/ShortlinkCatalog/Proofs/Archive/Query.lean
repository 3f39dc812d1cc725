import ShortlinkCatalog.Archive.Script
import ShortlinkCatalog.Proofs.Archive.Parameters
import ShortlinkCatalog.Proofs.Archive.Steady
import ShortlinkCatalog.Proofs.Text.Form
import ShortlinkCatalog.Proofs.Text.Quoted

/-!
# Queries on the wire

The fields of a query are the whole query of the address that is asked: normalising the
address changes no character of an encoded form, and redirects come only after the first
request.  Whether there is something to ask depends on the fields only in that they have to
be encodable and their form must not be too long.
-/

namespace ShortlinkCatalog

theorem Percent.encode_of_all {isPlain : CodePoint → Bool} {text : Text}
    (hplain : text.all isPlain = true) : encode isPlain text = text := by
  rw [List.all_eq_true] at hplain
  calc
    encode isPlain text = text.flatMap fun character => [character] := by
      rw [encode]
      exact List.flatMap_congr fun character hmem => by rw [if_pos (hplain character hmem)]
    _ = text := List.flatMap_singleton' text

/-- An encoded form is made of what single octets are encoded by, and of the two marks. -/
theorem Form.all_encode {member : CodePoint → Bool}
    (hmember : ∀ octet, (encodeOctet octet).all member = true)
    (hampersand : member '&' = true) (hequals : member '=' = true) (fields : Fields) :
    (encode fields).all member = true := by
  have hfield (field : Text × Text) : (encodeField field).all member = true := by
    simp [encodeField, Text.ofString, all_encodeText hmember, hequals]
  cases fields with
  | nil => rfl
  | cons field fields =>
      rw [encode, List.map_cons, Text.join, List.all_append, hfield, Bool.true_and,
        List.all_flatMap, List.all_eq_true, List.forall_mem_map]
      intro other _
      rw [List.all_append, hfield, Bool.and_true]
      simp [hampersand]

theorem Form.mem_given_iff {entries : Entries} {field : Text × Text} :
    field ∈ given entries ↔ (field.1, some field.2) ∈ entries := by
  obtain ⟨key, value⟩ := field
  rw [given, List.mem_filterMap]
  constructor
  · rintro ⟨⟨found, given⟩, hmem, hfield⟩
    obtain ⟨_, rfl, heq⟩ := Option.map_eq_some_iff.mp hfield
    cases heq
    exact hmem
  · exact fun hmem => ⟨_, hmem, rfl⟩

namespace Address

variable {fields : Form.Fields} {parts : Parts} {address : Address}

theorem encodeQuery_encode (fields : Form.Fields) :
    encodeQuery (Form.encode fields) = Form.encode fields :=
  Percent.encode_of_all
    (Form.all_encode (Utf8.forall_octet (by decide +kernel)) (by decide) (by decide) fields)

theorem firstControl?_encode (fields : Form.Fields) :
    firstControl? (Form.encode fields) = none := by
  have hfree : (Form.encode fields).all (!Text.isControl ·) = true :=
    Form.all_encode (Utf8.forall_octet (by decide +kernel)) (by decide) (by decide) fields
  have hfind : (Form.encode fields).find? Text.isControl = none := by
    simpa using hfree
  rw [firstControl?, hfind]
  rfl

theorem partFault_encode_eq_none_iff {name : Text} :
    partFault (name, Form.encode fields) = none ↔ (Form.encode fields).length ≤ maxLength := by
  rw [partFault, firstControl?_encode]
  simp

/-- Reading parts treats the query by itself. -/
theorem ofParts_query (parts : Parts) (newHost query : Option Text) :
    ofParts { parts with query } newHost =
      (ofParts parts newHost).map ({ · with query := query.map encodeQuery }) := by
  rw [ofParts, ofParts]
  simp only
  cases readHost (newHost.getD (cutAuthority parts.authority).2.1) with
  | error error => rfl
  | ok host =>
      cases readPort parts.scheme (cutAuthority parts.authority).2.2 with
      | error error => rfl
      | ok port =>
          simp only [bind, Except.bind]
          split <;> rfl

/-- What can be requested has a host that can be written and read. -/
def IsRequestable (address : Address) : Prop :=
  Text.asciiFault address.site = none ∧ ∃ host, address.ownHost = .ok host

theorem requestable_eq_ok_iff {address found : Address} :
    address.requestable = .ok found ↔ address.IsRequestable ∧ found = address := by
  rw [requestable, IsRequestable]
  cases Text.asciiFault address.site with
  | some error => simp [throw, throwThe, MonadExceptOf.throw]
  | none => cases address.ownHost <;> simp [bind, Except.bind, pure, Except.pure, eq_comm]

theorem fault_query_eq_none_iff (parts : Parts) (query : Text) :
    Parts.fault { parts with query := some query } none = none ↔
      Parts.fault { parts with query := none } none = none ∧
        partFault ("query", query) = none := by
  simp only [Parts.fault, List.findSome?_append, Option.or_eq_none_iff]
  simp
  tauto

theorem remake_eq_ok_iff {parts : Parts} {found : Address} :
    remake parts none = .ok found ↔ parts.fault none = none ∧ ofParts parts none = .ok found := by
  rw [remake, Option.map_none]
  cases parts.fault none <;> simp

theorem remake_query_eq_ok_iff {parts : Parts} {query : Text} {found : Address} :
    remake { parts with query := some query } none = .ok found ↔
      ∃ plain, remake { parts with query := none } none = .ok plain ∧
        partFault ("query", query) = none ∧
        found = { plain with query := some (encodeQuery query) } := by
  simp only [remake_eq_ok_iff, fault_query_eq_none_iff]
  rw [ofParts_query parts none (some query), ofParts_query parts none none]
  cases ofParts parts none with
  | error error => simp [Except.map]
  | ok address =>
      simp only [Except.map, Except.ok.injEq, Option.map_some, Option.map_none]
      constructor
      · rintro ⟨⟨hplain, hquery⟩, rfl⟩
        exact ⟨_, ⟨hplain, rfl⟩, hquery, rfl⟩
      · rintro ⟨_, ⟨hplain, rfl⟩, hquery, rfl⟩
        exact ⟨⟨hplain, hquery⟩, rfl⟩

/-- An address with fields is the address without any, with their form as its query. -/
theorem withFields_eq_ok_iff {fields : Form.Fields} {address found : Address} :
    address.withFields fields = .ok found ↔
      ∃ site, address.withFields [] = .ok site ∧ (Form.encode fields).length ≤ maxLength ∧
        found = { site with query := some (Form.encode fields) } := by
  have hplain (fields : Form.Fields) (found : Address) :
      address.withFields fields = .ok found ↔
        ∃ plain, remake { address.parts with query := none } none = .ok plain ∧
          (Form.encode fields).length ≤ maxLength ∧
          found = { plain with query := some (Form.encode fields) } := by
    rw [withFields, remake_query_eq_ok_iff]
    simp only [partFault_encode_eq_none_iff, encodeQuery_encode]
  have hempty : (Form.encode []).length ≤ maxLength := Nat.zero_le _
  simp only [hplain, hempty, true_and]
  constructor
  · rintro ⟨plain, hremake, hlength, rfl⟩
    exact ⟨_, ⟨plain, hremake, rfl⟩, hlength, rfl⟩
  · rintro ⟨_, ⟨plain, hremake, rfl⟩, hlength, rfl⟩
    exact ⟨plain, hremake, hlength, rfl⟩

end Address

namespace Archive

variable {σ : Type} {base : Text} {fields : Form.Fields} {address : Address}

/-! ## What is asked -/

/-- Where a query goes, whatever its fields are. -/
def placeOf (base : Text) : Except Address.Obstacle Address := do
  let address ← (Address.parse base).mapError .invalid
  (Address.below .empty address).mapError .invalid

theorem addressOf_eq_ok_iff_exists_place :
    addressOf base fields = .ok address ↔
      ∃ place, placeOf base = .ok place ∧ Form.fault? fields = none ∧
        place.withFields fields = .ok address ∧ address.IsRequestable := by
  rw [addressOf, placeOf]
  cases Address.parse base with
  | error error => simp [Except.mapError, bind, Except.bind]
  | ok text =>
      simp only [Except.mapError, bind, Except.bind]
      cases Address.below .empty text with
      | error error => simp
      | ok place =>
          cases Form.fault? fields with
          | some error => simp [throw, throwThe, MonadExceptOf.throw]
          | none =>
              cases hasked : place.withFields fields with
              | error error => simp [hasked]
              | ok asked =>
                  simp only [hasked, Address.requestable_eq_ok_iff, Except.ok.injEq,
                    exists_eq_left', true_and]
                  constructor
                  · rintro ⟨hrequestable, rfl⟩
                    exact ⟨rfl, hrequestable⟩
                  · rintro ⟨rfl, hrequestable⟩
                    exact ⟨hrequestable, rfl⟩

/-- What is asked is what is asked without fields, with their form as its query. -/
theorem addressOf_eq_ok_iff :
    addressOf base fields = .ok address ↔
      ∃ site, addressOf base [] = .ok site ∧ Form.fault? fields = none ∧
        (Form.encode fields).length ≤ Address.maxLength ∧
        address = { site with query := some (Form.encode fields) } := by
  simp only [addressOf_eq_ok_iff_exists_place]
  constructor
  · rintro ⟨place, hplace, hfault, hasked, hrequestable⟩
    obtain ⟨site, hsite, hlength, rfl⟩ := Address.withFields_eq_ok_iff.mp hasked
    exact ⟨site, ⟨place, hplace, rfl, hsite, hrequestable⟩, hfault, hlength, rfl⟩
  · rintro ⟨site, ⟨place, hplace, -, hsite, hrequestable⟩, hfault, hlength, rfl⟩
    have hasked := Address.withFields_eq_ok_iff.mpr ⟨site, hsite, hlength, rfl⟩
    exact ⟨place, hplace, hfault, hasked, hrequestable⟩

/-! ## What is sent -/

/-- An archive that notes every request that it gets, the latest first. -/
def noting (send : Sender σ) : Sender (List Request × σ) := fun request (sent, state) =>
  let (outcome, state) := send request state
  (outcome, request :: sent, state)

/-- An exchange begins with its request. -/
theorem suffix_follow_noting (send : Sender σ) (redirects : Nat) (request : Request)
    (sent : List Request) (state : σ) :
    request :: sent <:+ (follow (noting send) redirects request (sent, state)).2.1 := by
  have hnoted : noting send request (sent, state) =
      ((send request state).1, request :: sent, (send request state).2) := rfl
  induction redirects generalizing request sent state with
  | zero =>
      rw [follow_eq, hnoted]
      cases (send request state).1 with
      | reply reply => cases hnext : reply.next request.address <;> simp [hnext]
      | _ => exact List.suffix_rfl
  | succ redirects ih =>
      rw [follow_eq, hnoted]
      cases (send request state).1 with
      | reply reply =>
          cases hnext : reply.next request.address with
          | done outcome => simp [hnext]
          | goTo address =>
              simp only [hnext]
              refine (List.suffix_cons _ _).trans (ih _ _ _ rfl)
      | _ => exact List.suffix_rfl

/-- The requests that a query for captures sends, in their order. -/
def sent (send : Sender σ) (settings : Settings) (url : Text) (options : TimemapOptions)
    (apiUrl : Option Text) (state : σ) : List Request :=
  (timemap (noting send) settings url options apiUrl ([], state)).2.1.reverse

/-- The first request of a query is for its address. -/
theorem head?_sent_eq_some_iff {send : Sender σ} {settings : Settings} {url : Text}
    {options : TimemapOptions} {apiUrl : Option Text} {state : σ} {request : Request} :
    (sent send settings url options apiUrl state).head? = some request ↔
      ∃ address, addressOf (orDefault apiUrl settings.timemapUrl) (options.parameters url) =
          .ok address ∧ request = ⟨address, settings.userAgent⟩ := by
  rw [sent, timemap, get, List.head?_reverse]
  cases addressOf (orDefault apiUrl settings.timemapUrl) (options.parameters url) with
  | error obstacle => simp
  | ok address =>
      obtain ⟨later, hlater⟩ :=
        suffix_follow_noting send maxRedirects ⟨address, settings.userAgent⟩ [] state
      simp [← hlater, eq_comm]

/-! ## Queries and their requests -/

/-- Everything that a query is made of can be written in UTF-8. -/
def TimemapOptions.IsEncodable (options : TimemapOptions) (url : Text) : Prop :=
  url.isEncodable = true ∧ (∀ name ∈ options.fields, name.isEncodable = true) ∧
    ∀ field ∈ options.collapse, field.isEncodable = true

/-- What stands in a query can be written if its options can. -/
theorem TimemapOptions.isEncodable_entries {options : TimemapOptions} {url : Text}
    (hencodable : options.IsEncodable url) :
    ∀ entry ∈ options.entries url,
      entry.1.isEncodable = true ∧ ∀ value ∈ entry.2, value.isEncodable = true := by
  obtain ⟨hurl, hfields, hcollapse⟩ := hencodable
  have hlist : ∀ value ∈ options.fieldList?, value.isEncodable = true := by
    intro value hvalue
    obtain ⟨-, rfl⟩ : ¬ options.fields = [] ∧ Text.join "," options.fields = value := by
      simpa [fieldList?] using hvalue
    exact Text.isEncodable_join (Text.isEncodable_ofString ",") hfields
  have hcollapsed : ∀ value ∈ options.collapse?, value.isEncodable = true := by
    intro value hvalue
    cases hfield : options.collapse with
    | none => simp [collapse?, hfield] at hvalue
    | some field =>
        obtain ⟨-, rfl⟩ : ¬ field = [] ∧ field = value := by
          simpa [collapse?, hfield] using hvalue
        exact hcollapse field hfield
  have hscope : ∀ value ∈ (if options.matchPrefix then some (Text.ofString "prefix") else .none),
      value.isEncodable = true := by
    cases options.matchPrefix <;> simp
  have hlimit : ∀ value ∈ options.limit.map Text.ofInt, value.isEncodable = true := by
    cases options.limit <;> simp
  simp only [entries, List.forall_mem_cons, Text.isEncodable_ofString, true_and,
    Option.mem_some_iff]
  refine ⟨?_, ?_, hlist, hcollapsed, hscope, hlimit, by simp⟩
  · rintro _ rfl
    exact hurl
  · rintro _ rfl
    exact Text.isEncodable_ofString "json"

theorem TimemapOptions.fault?_parameters {options : TimemapOptions} {url : Text}
    (hencodable : options.IsEncodable url) :
    Form.fault? (options.parameters url) = Option.none := by
  rw [Form.fault?_eq_none_iff, parameters_eq_given]
  intro field hmem
  obtain ⟨hkey, hvalue⟩ := isEncodable_entries hencodable _ (Form.mem_given_iff.mp hmem)
  exact ⟨hkey, hvalue field.2 rfl⟩

/-- The fields of a query hold each key at most once and in a fixed order, and two queries
have the same fields only if they ask for the same.  What can be written in UTF-8 is read
back from the form, so the form determines the fields.  It is the query of the first request
that is sent, and one is sent if there is an address to ask and the form is not too long. -/
theorem TimemapOptions.query_determines_request (send : Sender σ) (settings : Settings)
    (apiUrl : Option Text) (state : σ) (options others : TimemapOptions) (url other : Text) :
    (((options.parameters url).map Prod.fst).Sublist keys ∧
      ((options.parameters url).map Prod.fst).Nodup) ∧
    (options.parameters url = others.parameters other →
      url = other ∧ options.matchPrefix = others.matchPrefix ∧ options.limit = others.limit ∧
        options.collapse.getD [] = others.collapse.getD [] ∧
        ((∀ name ∈ options.fields, .char ',' ∉ name) →
          (∀ name ∈ others.fields, .char ',' ∉ name) → options.fields = others.fields)) ∧
    (options.IsEncodable url →
      Form.decode (Form.encode (options.parameters url)) = options.parameters url ∧
      (others.IsEncodable other →
        Form.encode (options.parameters url) = Form.encode (others.parameters other) →
        options.parameters url = others.parameters other) ∧
      ∀ request, (sent send settings url options apiUrl state).head? = some request ↔
        ∃ site, addressOf (orDefault apiUrl settings.timemapUrl) [] = .ok site ∧
          (Form.encode (options.parameters url)).length ≤ Address.maxLength ∧
          request = ⟨{ site with query := some (Form.encode (options.parameters url)) },
            settings.userAgent⟩) := by
  have hkeys := keys_parameters_sublist options url
  refine ⟨⟨hkeys, nodup_keys.sublist hkeys⟩, fun heq => ?_, fun hencodable => ?_⟩
  · obtain ⟨hurl, hlist, hcollapse, hscope, hlimit⟩ := parameters_eq_iff.mp heq
    refine ⟨hurl, hscope, hlimit, collapse?_eq_iff.mp hcollapse, fun hfields hothers => ?_⟩
    exact fields_eq_of_fieldList?_eq hfields hothers hlist
  · have hfault := fault?_parameters hencodable
    refine ⟨Form.decode_encode hfault, fun hother => ?_, fun request => ?_⟩
    · exact Form.encode_injective hfault (fault?_parameters hother)
    · rw [head?_sent_eq_some_iff]
      constructor
      · rintro ⟨address, haddress, rfl⟩
        obtain ⟨site, hsite, -, hlength, rfl⟩ := addressOf_eq_ok_iff.mp haddress
        exact ⟨site, hsite, hlength, rfl⟩
      · rintro ⟨site, hsite, hlength, rfl⟩
        exact ⟨_, addressOf_eq_ok_iff.mpr ⟨site, hsite, hfault, hlength, rfl⟩, rfl⟩

/-- Options with marks, letters and a field name that the form has to escape. -/
def escapedOptions : TimemapOptions := ⟨some "a&b=c", ["é+", "%20 d"], true, some (-3)⟩

def escapedUrl : Text := "http://x/?q=1&r=é"

def escapedForm : Text :=
  "url=http%3A%2F%2Fx%2F%3Fq%3D1%26r%3D%C3%A9&output=json&fl=%C3%A9%2B%2C%2520+d" ++
    "&collapse=a%26b%3Dc&matchType=prefix&limit=-3"

/-- The form of the options is read back, and is the query of the request that is sent. -/
theorem query_determines_request_escaped :
    escapedOptions.IsEncodable escapedUrl ∧
    Form.encode (escapedOptions.parameters escapedUrl) = escapedForm ∧
    Form.decode escapedForm = escapedOptions.parameters escapedUrl ∧
    ∃ request,
      (sent Script.send .default escapedUrl escapedOptions .none (.ofOutcomes [])).head? =
          some request ∧
        request.address.query = some escapedForm := by
  have hencodable : escapedOptions.IsEncodable escapedUrl :=
    ⟨by decide, by decide, by decide⟩
  have hform : Form.encode (escapedOptions.parameters escapedUrl) = escapedForm := by
    decide +kernel
  obtain ⟨-, -, hquery⟩ := TimemapOptions.query_determines_request Script.send .default .none
    (.ofOutcomes []) escapedOptions escapedOptions escapedUrl escapedUrl
  obtain ⟨hdecode, -, hsent⟩ := hquery hencodable
  rw [hform] at hdecode hsent
  have hsite : (addressOf (orDefault .none Settings.default.timemapUrl) []).isOk = true := by
    decide +kernel
  cases hbase : addressOf (orDefault .none Settings.default.timemapUrl) [] with
  | error obstacle => rw [hbase] at hsite; cases hsite
  | ok site =>
    exact ⟨hencodable, hform, hdecode, _, (hsent _).mpr ⟨site, hbase, by decide +kernel, rfl⟩, rfl⟩

end Archive

end ShortlinkCatalog
