import ShopClient.Account.Profile
import ShopClient.Account.Renewal
import ShopClient.Account.SignIn
import ShopClient.Proofs.Decoding.Fields

/-!
# What the shop sends

A sign-in, a renewal and a profile are answered with records. The shop may write them as objects or as
arrays, with all fields or with some, in any order, and may add what is not known here. What it means is
the same in each of these forms (`Decoder.ReadsRecord`).

* `Record.Consists.readsRecord`: so it is for every record that consists of its fields;
* `consists_signIn`, `consists_renewal`, `consists_profile`: the three records do;
* `reads_replies`: what follows for them.
-/

namespace ShopClient

namespace Json

variable {ρ : Type} {values : ρ → List Value} {r : Record ρ} {x : ρ} {vs : List Value}
  {ms ms' : List (String × Value)}

/-! ### Values of single fields -/

namespace Decoder

theorem uint64_int (n : UInt64) : uint64 (.int n.toNat) = .ok n := by
  have hlt := n.toNat_lt
  have hin : (0 : Int) ≤ n.toNat ∧ (n.toNat : Int) ≤ 0xFFFFFFFFFFFFFFFF := by omega
  rw [uint64, Value.int, whole, if_pos hin]
  change Except.ok (UInt64.ofNat _) = _
  rw [Int.toNat_natCast, UInt64.ofNat_toNat]

theorem int64_int (n : Int64) : int64 (.int n.toInt) = .ok n := by
  rw [int64, Value.int, whole, if_pos ⟨n.minValue_le_toInt, n.toInt_le⟩]
  change Except.ok (Int64.ofInt _) = _
  rw [Int64.ofInt_toInt]

theorem int32_int (n : Int32) : int32 (.int n.toInt) = .ok n := by
  rw [int32, Value.int, whole, if_pos ⟨n.minValue_le_toInt, n.toInt_le⟩]
  change Except.ok (Int32.ofInt _) = _
  rw [Int32.ofInt_toInt]

theorem string_string (s : String) : string (.string s) = .ok s := rfl

theorem binary64_real (x : Binary64) : binary64 (.number (.real x)) = .ok x := rfl

/-- What may be absent is read back as well, if null stands for nothing else. -/
theorem optional_elim {α : Type} {decode : Decoder α} {write : α → Value}
    (hread : ∀ a, decode (write a) = .ok a) (hnull : ∀ a, write a ≠ .null) (o : Option α) :
    optional decode (o.elim .null write) = .ok o := by
  cases o with
  | none => rfl
  | some a =>
    rw [Option.elim_some, optional]
    · rw [hread]
      rfl
    · exact hnull a

theorem optional_string (o : Option String) :
    optional string (o.elim .null .string) = .ok o :=
  optional_elim string_string (fun _ h => by cases h) o

theorem optional_uint64 (o : Option UInt64) :
    optional uint64 (o.elim .null fun n => .int n.toNat) = .ok o :=
  optional_elim uint64_int (fun _ h => by cases h) o

/-- What is read back was written differently. -/
theorem injective {α : Type} {decode : Decoder α} {write : α → Value}
    (hread : ∀ a, decode (write a) = .ok a) : Function.Injective write := fun a b hab =>
  Except.ok.inj (by rw [← hread a, hab, hread b])

end Decoder

/-! ### Whole records -/

/-- Records with fields of these `names` are decoded in the same way from all that stands for them.
    `others` are further names of some fields, each with the name of its field.

    * An array holds the values of the first fields in their order, an object holds them under their
      names in any order. Both stand for the same record, or neither for any.
    * Fields that are not given are those of the default record.
    * There is no field for what an array holds beyond the last one.
    * Members with another key make no difference.
    * A field can be given by either name, and not by both.
    * What a record is written as stands for this record, in any order of its members. -/
structure Decoder.ReadsRecord (names : List String) (others : List (String × String)) (default : ρ)
    (toValue : ρ → Value) (decode : Decoder ρ) : Prop where
  written : ∀ x, ∃ vs, vs.length = names.length ∧ toValue x = .object (names.zip vs)
  array_object : ∀ vs ms, vs.length ≤ names.length → ms.Perm (names.zip vs) →
    (decode (.array vs)).toOption = (decode (.object ms)).toOption
  absent : ∀ vs x ms ms', decode (.array vs) = .ok x → toValue x = .object ms →
    toValue default = .object ms' → ms.drop vs.length = ms'.drop vs.length
  beyond : ∀ vs, names.length < vs.length → (decode (.array vs)).toOption = none
  unknown : ∀ k v ms ms', k ∉ names → k ∉ others.map Prod.fst →
    decode (.object (ms ++ (k, v) :: ms')) = decode (.object (ms ++ ms'))
  renamed : ∀ k k', (k, k') ∈ others → ∀ v rest ms ms', ms.Perm ((k, v) :: rest) →
    ms'.Perm ((k', v) :: rest) → (decode (.object ms)).toOption = (decode (.object ms')).toOption
  twice : ∀ k k', (k, k') ∈ others → ∀ v v' rest ms, ms.Perm ((k, v) :: (k', v') :: rest) →
    (decode (.object ms)).toOption = none
  rereads : ∀ x ms ms', toValue x = .object ms → ms'.Perm ms → decode (.object ms') = .ok x

theorem Record.decode_array_of_le (h : vs.length ≤ r.fields.length) :
    r.decode (.array vs) = ofItems r.fields vs r.blank := by
  rw [decode]
  cases ofItems r.fields vs r.blank with
  | error e => rfl
  | ok x => exact if_pos h

theorem Record.decode_array_of_lt (h : r.fields.length < vs.length) :
    (r.decode (.array vs)).toOption = none := by
  rw [decode]
  cases ofItems r.fields vs r.blank with
  | error e => rfl
  | ok x => exact congrArg Except.toOption (if_neg (Nat.not_le.2 h))

namespace Record.Consists

/-- The fields by their names, in any order, are the fields by their places. -/
theorem decode_array_eq_object (h : r.Consists values) (hvs : vs.length ≤ r.fields.length)
    (hms : ms.Perm ((r.fields.map Field.name).zip vs)) :
    (r.decode (.array vs)).toOption = (r.decode (.object ms)).toOption := by
  have hzip := h.ofMembers_zip [] rfl (fun n (hn : n ∈ []) => hn) vs r.blank
  rw [decode_array_of_le hvs, ← hzip]
  exact (h.ofMembers_perm hms [] r.blank).symm

/-- A record is read back from its fields by their names, in any order. -/
theorem decode_object_values (h : r.Consists values)
    (hms : ms.Perm ((r.fields.map Field.name).zip (values x))) : r.decode (.object ms) = .ok x := by
  have hread : ofItems r.fields (values x) r.blank = .ok x :=
    h.ofItems_values [] rfl rfl
  have hdecode := h.decode_array_eq_object (Nat.le_of_eq (h.length x)) hms
  rw [decode_array_of_le (Nat.le_of_eq (h.length x)), hread] at hdecode
  cases hobject : r.decode (.object ms) with
  | error e =>
    rw [hobject] at hdecode
    cases hdecode
  | ok y =>
    rw [hobject] at hdecode
    exact congrArg _ (Option.some.inj hdecode).symm

/-- Fields that an array does not reach are those of the record of which no field is given. -/
theorem drop_of_decode_array (h : r.Consists values) (hx : r.decode (.array vs) = .ok x) :
    (values x).drop vs.length = (values r.blank).drop vs.length := by
  have hvs : vs.length ≤ r.fields.length := by
    refine Nat.le_of_not_lt fun hlt => ?_
    have hnone := decode_array_of_lt hlt
    rw [hx] at hnone
    cases hnone
  rw [decode_array_of_le hvs] at hx
  have hdrop := h.drop_ofItems [] rfl hx
  rwa [List.length_nil, Nat.zero_add] at hdrop

/-- A record that consists of its fields is decoded in the same way from all that stands for it. -/
theorem readsRecord (h : r.Consists values) {names : List String} {others : List (String × String)}
    {default : ρ} {toValue : ρ → Value} (hnames : r.fields.map Field.name = names)
    (hdefault : r.blank = default) (hvalue : ∀ x, toValue x = .object (names.zip (values x)))
    (hothers : ∀ p ∈ others, ∃ f ∈ r.fields, p.1 ∈ f.names ∧ p.2 ∈ f.names)
    (hknown : ∀ f ∈ r.fields, ∀ k ∈ f.aliases, k ∈ others.map Prod.fst) :
    r.decode.ReadsRecord names others default toValue := by
  subst hnames hdefault
  have hlength (vs : List Value) : vs.length ≤ (r.fields.map Field.name).length ↔
      vs.length ≤ r.fields.length := by rw [List.length_map]
  constructor
  case written => exact fun x => ⟨values x, by rw [h.length, List.length_map], hvalue x⟩
  case array_object => exact fun vs ms hvs => h.decode_array_eq_object ((hlength vs).1 hvs)
  case absent =>
    intro vs x ms ms' hx hms hms'
    obtain rfl := Value.object.inj ((hvalue x).symm.trans hms)
    obtain rfl := Value.object.inj ((hvalue _).symm.trans hms')
    simp only [List.zip_eq_zipWith, List.drop_zipWith, h.drop_of_decode_array hx]
  case beyond =>
    intro vs hvs
    rw [List.length_map] at hvs
    exact decode_array_of_lt hvs
  case unknown =>
    intro k v ms ms' hk hk'
    refine ofMembers_append_cons_of_none (List.find?_eq_none.2 ?_) v [] ms ms' r.blank
    intro f hf hanswers
    rcases List.mem_cons.1 (Field.answersTo_iff.1 hanswers) with rfl | halias
    · exact hk (List.mem_map_of_mem hf)
    · exact hk' (hknown f hf k halias)
  case renamed =>
    intro k k' hkk' v rest ms ms' hms hms'
    obtain ⟨f, hf, hk, hk'⟩ := hothers _ hkk'
    change (ofMembers _ _ _ _).toOption = (ofMembers _ _ _ _).toOption
    rw [h.ofMembers_perm hms, h.ofMembers_perm hms', h.ofMembers_renamed hf hk hk']
  case twice =>
    intro k k' hkk' v v' rest ms hms
    obtain ⟨f, hf, hk, hk'⟩ := hothers _ hkk'
    exact h.ofMembers_twice hf hk hk' v v' hms r.blank
  case rereads =>
    intro x ms ms' hms hperm
    obtain rfl := Value.object.inj ((hvalue x).symm.trans hms)
    exact h.decode_object_values hperm

end Record.Consists

end Json

open Json

/-! ### The three answers -/

/-- What the fields of the answer to a sign-in hold. -/
def SignInReply.values (r : SignInReply) : List Value :=
  [.string r.access, .string r.refresh, .int r.expiresIn.toNat]

/-- What the fields of the answer to a renewal hold. -/
def RenewalReply.values (r : RenewalReply) : List Value :=
  [r.accessToken.elim .null .string, r.refreshToken.elim .null .string,
    r.expiresIn.elim .null fun n => .int n.toNat]

/-- What the fields of a profile hold. -/
def Profile.values (p : Profile) : List Value :=
  [.int p.id.toNat, .string p.userName, .number (.real p.balance), .string p.avatar,
    .int p.totalSpentCents.toInt, .int p.growthLevel.toInt]

theorem consists_signIn : SignInReply.record.Consists SignInReply.values where
  injective x y h := by
    cases x
    cases y
    simp only [SignInReply.values, List.cons.injEq] at h
    obtain ⟨haccess, hrefresh, hexpires, -⟩ := h
    obtain rfl := Decoder.injective Decoder.string_string haccess
    obtain rfl := Decoder.injective Decoder.string_string hrefresh
    obtain rfl := Decoder.injective Decoder.uint64_int hexpires
    rfl
  length _ := rfl
  names := by decide
  holds i f hf := by
    rcases i with _ | _ | _ | i
    · obtain rfl := Option.some.inj hf
      exact Field.holdsAt Decoder.string .string (·.access) (fun a x => { x with access := a })
        (fun _ _ => rfl) Decoder.string_string (fun _ _ => rfl) fun _ => rfl
    · obtain rfl := Option.some.inj hf
      exact Field.holdsAt Decoder.string .string (·.refresh) (fun a x => { x with refresh := a })
        (fun _ _ => rfl) Decoder.string_string (fun _ _ => rfl) fun _ => rfl
    · obtain rfl := Option.some.inj hf
      exact Field.holdsAt Decoder.uint64 (fun n => .int n.toNat) (·.expiresIn)
        (fun a x => { x with expiresIn := a }) (fun _ _ => rfl) Decoder.uint64_int
        (fun _ _ => rfl) fun _ => rfl
    · cases hf

theorem consists_renewal : RenewalReply.record.Consists RenewalReply.values where
  injective x y h := by
    cases x
    cases y
    simp only [RenewalReply.values, List.cons.injEq] at h
    obtain ⟨haccess, hrefresh, hexpires, -⟩ := h
    obtain rfl := Decoder.injective Decoder.optional_string haccess
    obtain rfl := Decoder.injective Decoder.optional_string hrefresh
    obtain rfl := Decoder.injective Decoder.optional_uint64 hexpires
    rfl
  length _ := rfl
  names := by decide
  holds i f hf := by
    rcases i with _ | _ | _ | i
    · obtain rfl := Option.some.inj hf
      exact Field.holdsAt (Decoder.optional Decoder.string) (·.elim .null .string) (·.accessToken)
        (fun a x => { x with accessToken := a }) (fun _ _ => rfl) Decoder.optional_string
        (fun _ _ => rfl) fun _ => rfl
    · obtain rfl := Option.some.inj hf
      exact Field.holdsAt (Decoder.optional Decoder.string) (·.elim .null .string) (·.refreshToken)
        (fun a x => { x with refreshToken := a }) (fun _ _ => rfl) Decoder.optional_string
        (fun _ _ => rfl) fun _ => rfl
    · obtain rfl := Option.some.inj hf
      exact Field.holdsAt (Decoder.optional Decoder.uint64) (·.elim .null fun n => .int n.toNat)
        (·.expiresIn) (fun a x => { x with expiresIn := a }) (fun _ _ => rfl) Decoder.optional_uint64
        (fun _ _ => rfl) fun _ => rfl
    · cases hf

theorem consists_profile : Profile.record.Consists Profile.values where
  injective x y h := by
    cases x
    cases y
    simp only [Profile.values, List.cons.injEq] at h
    obtain ⟨hid, hname, hbalance, havatar, hspent, hgrowth, -⟩ := h
    obtain rfl := Decoder.injective Decoder.uint64_int hid
    obtain rfl := Decoder.injective Decoder.string_string hname
    obtain rfl := Decoder.injective Decoder.binary64_real hbalance
    obtain rfl := Decoder.injective Decoder.string_string havatar
    obtain rfl := Decoder.injective Decoder.int64_int hspent
    obtain rfl := Decoder.injective Decoder.int32_int hgrowth
    rfl
  length _ := rfl
  names := by decide
  holds i f hf := by
    rcases i with _ | _ | _ | _ | _ | _ | i
    · obtain rfl := Option.some.inj hf
      exact Field.holdsAt Decoder.uint64 (fun n => .int n.toNat) (·.id) (fun a x => { x with id := a })
        (fun _ _ => rfl) Decoder.uint64_int (fun _ _ => rfl) fun _ => rfl
    · obtain rfl := Option.some.inj hf
      exact Field.holdsAt Decoder.string .string (·.userName) (fun a x => { x with userName := a })
        (fun _ _ => rfl) Decoder.string_string (fun _ _ => rfl) fun _ => rfl
    · obtain rfl := Option.some.inj hf
      exact Field.holdsAt Decoder.binary64 (fun n => .number (.real n)) (·.balance)
        (fun a x => { x with balance := a }) (fun _ _ => rfl) Decoder.binary64_real
        (fun _ _ => rfl) fun _ => rfl
    · obtain rfl := Option.some.inj hf
      exact Field.holdsAt Decoder.string .string (·.avatar) (fun a x => { x with avatar := a })
        (fun _ _ => rfl) Decoder.string_string (fun _ _ => rfl) fun _ => rfl
    · obtain rfl := Option.some.inj hf
      exact Field.holdsAt Decoder.int64 (fun n => .int n.toInt) (·.totalSpentCents)
        (fun a x => { x with totalSpentCents := a }) (fun _ _ => rfl) Decoder.int64_int
        (fun _ _ => rfl) fun _ => rfl
    · obtain rfl := Option.some.inj hf
      exact Field.holdsAt Decoder.int32 (fun n => .int n.toInt) (·.growthLevel)
        (fun a x => { x with growthLevel := a }) (fun _ _ => rfl) Decoder.int32_int
        (fun _ _ => rfl) fun _ => rfl
    · cases hf

/-- The answers to a sign-in, to a renewal and to a request for the profile are decoded in the same
    way from all that stands for them. The account number is the only field with two names. -/
theorem reads_replies :
    SignInReply.decode.ReadsRecord ["access_token", "refresh_token", "expires_in"] []
      ⟨"", "", 0⟩ SignInReply.toValue ∧
    RenewalReply.decode.ReadsRecord ["access_token", "refresh_token", "expires_in"] []
      ⟨none, none, none⟩ RenewalReply.toValue ∧
    Profile.decode.ReadsRecord
      ["id", "username", "balance", "avatar", "total_spent_cents", "growth_level"] [("ID", "id")]
      ⟨0, "", .zero false, "", 0, 0⟩ Profile.toValue := by
  refine ⟨?signIn, ?renewal, ?profile⟩
  case signIn =>
    exact consists_signIn.readsRecord rfl rfl (fun _ => rfl) (fun p hp => absurd hp List.not_mem_nil)
      (by decide)
  case renewal =>
    refine consists_renewal.readsRecord rfl rfl ?_ (fun p hp => absurd hp List.not_mem_nil) (by decide)
    rintro ⟨_ | access, _ | refresh, _ | expires⟩ <;> rfl
  case profile =>
    refine consists_profile.readsRecord rfl rfl (fun _ => rfl) ?_ (by decide)
    intro p hp
    obtain rfl := List.mem_singleton.1 hp
    exact ⟨_, List.mem_cons_self, by decide, by decide⟩

end ShopClient
