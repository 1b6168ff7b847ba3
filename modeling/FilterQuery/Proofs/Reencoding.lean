import FilterQuery.Proofs.CanonicalRequests
import FilterQuery.Proofs.VersionAgreement
import FilterQuery.Request.Encoder

/-!
# Writing a request and reading it again

A canonical request, written in the canonical format, is read back to itself: the members come in the
order of their declaration, each is read to what was written, and those that were left out keep the
default that they stood for. As every decoded request is canonical, this holds of all of them, and of the
requests that came in the older format too.
-/

namespace FilterQuery

namespace Decoder

variable {α σ : Type} {d : Decoder α}

section Writers

variable {write : α → Json}

theorem list_map {xs : List α} (h : ∀ x ∈ xs, d (write x) = .ok x) :
    list d (.array (xs.map write)) = .ok xs := by
  change (xs.map write).mapM d = .ok xs
  induction xs with
  | nil => rfl
  | cons x rest ih =>
      rw [List.map_cons, mapM_cons, h x List.mem_cons_self,
        ih fun x hx => h x (List.mem_cons_of_mem _ hx)]
      rfl

theorem optional_of_ne_null {v : Json} (h : v ≠ .null) : optional d v = (d v).map some := by
  cases v with
  | null => exact absurd rfl h
  | _ => rfl

/-- What is absent is written as a null, and nothing else is. -/
theorem optional_map {o : Option α} (hnull : ∀ x, write x ≠ .null)
    (h : ∀ x ∈ o, d (write x) = .ok x) : optional d ((o.map write).getD .null) = .ok o := by
  cases o with
  | none => rfl
  | some x =>
      rw [Option.map_some, Option.getD_some, optional_of_ne_null (hnull x), h x rfl]
      rfl

end Writers

section Members

variable {known : List (Member σ)} {name : String} {s t : σ}

theorem members_cons_eq_ok {put : α → σ → σ} {v : Json} {x : α} {rest : List (String × Json)}
    (hfind : known.find? (·.name == name) = some (member name d put)) (hread : d v = .ok x)
    (hrest : members known rest (put x s) = .ok t) :
    members known ((name, v) :: rest) s = .ok t := by
  rw [members_cons, readMember, hfind]
  change ((d v).map fun x => put x s).bind (members known rest) = .ok t
  rw [hread]
  exact hrest

theorem members_append_eq_ok (s' : σ) {first second : List (String × Json)}
    (hfirst : members known first s = .ok s') (hsecond : members known second s' = .ok t) :
    members known (first ++ second) s = .ok t := by
  rw [members_append, hfirst]
  exact hsecond

/-- A member that is left out where there is nothing to write, on a record that has nothing there. -/
theorem members_optionalMember {put : Option Json → σ → σ} {o : Option Json}
    (hfind : known.find? (·.name == name) = some (member name (optional raw) put))
    (hnull : o ≠ some .null) (habsent : put none s = s) (hput : put o s = t) :
    members known (optionalMember name o) s = .ok t := by
  rw [← hput]
  cases o with
  | none => exact congrArg Except.ok habsent.symm
  | some v =>
      have hv : v ≠ .null := fun hv => hnull (congrArg some hv)
      exact members_cons_eq_ok hfind (optional_of_ne_null hv) rfl

end Members

end Decoder

open Decoder

theorem Match.decode_toJson {m : Match} (h : m.Canonical) : decode m.toJson = .ok m := by
  have hvalue := RequestValue.ofJson_toJson h
  calc decode m.toJson
      = .ok ⟨m.key, .ofJson m.value.toJson⟩ := rfl
    _ = .ok m := by rw [hvalue]

theorem Like.decode_toJson (l : Like) : decode l.toJson = .ok l := rfl

theorem ElemMatch.decode_toJson {e : ElemMatch} (h : e.Canonical) : decode e.toJson = .ok e := by
  have hvalue := list_map fun m hm => Match.decode_toJson (h m hm)
  rw [decode, toJson]
  exact members_cons_eq_ok rfl rfl (members_cons_eq_ok rfl hvalue rfl)

theorem Bounds.decode_toJson {b : Bounds} (h : b.Canonical) : decode b.toJson = .ok b := by
  rw [decode, toJson]
  refine members_append_eq_ok { b with lte := none }
    (members_append_eq_ok { b with gte := none, lte := none }
      (members_append_eq_ok { gt := b.gt } ?_ ?_) ?_) ?_
  · exact members_optionalMember rfl h.gt rfl rfl
  · exact members_optionalMember rfl h.lt rfl rfl
  · exact members_optionalMember rfl h.gte rfl rfl
  · exact members_optionalMember rfl h.lte rfl rfl

theorem Range.decode_toJson {r : Range} (h : r.Canonical) : decode r.toJson = .ok r := by
  have hvalue := optional_map (fun _ hnull => Json.noConfusion hnull)
    fun b hb => Bounds.decode_toJson (h b hb)
  rw [decode, toJson]
  exact members_cons_eq_ok rfl rfl (members_cons_eq_ok rfl hvalue rfl)

theorem Membership.decode_toJson {m : Membership} (h : m.Canonical) : decode m.toJson = .ok m := by
  have hitem : ∀ vs ∈ m.value, ∀ v ∈ vs, RequestValue.decode v.toJson = .ok v :=
    fun vs hvs v hv => congrArg Except.ok (RequestValue.ofJson_toJson (h vs hvs v hv))
  have hvalue : optional (list RequestValue.decode)
      ((m.value.map fun vs => .array (vs.map RequestValue.toJson)).getD .null) = .ok m.value :=
    optional_map (fun _ hnull => Json.noConfusion hnull) fun vs hvs => list_map (hitem vs hvs)
  rw [decode, toJson]
  exact members_cons_eq_ok rfl rfl (members_cons_eq_ok rfl hvalue rfl)

theorem QueryPart.decode_toJson {q : QueryPart} (h : q.Canonical) : decode q.toJson = .ok q := by
  have hequalities := list_map fun m hm => Match.decode_toJson (h.equalities m hm)
  have hsubstrings := list_map fun l (_ : l ∈ q.substrings) => l.decode_toJson
  have helements := list_map fun e he => ElemMatch.decode_toJson (h.elements e he)
  rw [decode, toJson]
  exact members_cons_eq_ok rfl hequalities
    (members_cons_eq_ok rfl hsubstrings (members_cons_eq_ok rfl helements rfl))

theorem FilterPart.decode_toJson {f : FilterPart} (h : f.Canonical) : decode f.toJson = .ok f := by
  have hranges := list_map fun r hr => Range.decode_toJson (h.ranges r hr)
  have hanyOf := list_map fun m hm => Membership.decode_toJson (h.anyOf m hm)
  have hnoneOf := list_map fun m hm => Membership.decode_toJson (h.noneOf m hm)
  have hallOf := list_map fun m hm => Membership.decode_toJson (h.allOf m hm)
  rw [decode, toJson]
  exact members_cons_eq_ok rfl hranges (members_cons_eq_ok rfl hanyOf
    (members_cons_eq_ok rfl hnoneOf (members_cons_eq_ok rfl hallOf rfl)))

theorem SortEntry.decode_toJson (s : SortEntry) : decode s.toJson = .ok s := rfl

theorem Limit.decode_toJson (l : Limit) : decode l.toJson = .ok l := rfl

theorem Request.decode_toJson {r : Request} (h : r.Canonical) :
    decode r.toJson = .ok { r with version := .v3 } := by
  have hsort := list_map fun s (_ : s ∈ r.sort) => s.decode_toJson
  rw [decode, toJson]
  refine members_append_eq_ok { r with data := none, version := .v3 } ?_
    (members_optionalMember rfl h.data rfl rfl)
  exact members_cons_eq_ok rfl (QueryPart.decode_toJson h.query)
    (members_cons_eq_ok rfl (FilterPart.decode_toJson h.filter)
      (members_cons_eq_ok rfl hsort (members_cons_eq_ok rfl r.limit.decode_toJson rfl)))

/-- **Written requests are read back.** What a body of either version is decoded to is written in the
canonical format without loss: version 3 reads it to the same request, now of its own version. That
request is written alike again, it is compiled to the same result and listed in the same way. -/
theorem ofJson_toJson_of_ofJson [RegexLibrary] {version : WireVersion} {body : Json} {r : Request}
    (h : Request.ofJson version body = .ok r) :
    ∃ r' : Request, Request.ofJson .v3 r.toJson = .ok r' ∧ r' = { r with version := .v3 } ∧
      r'.toJson = r.toJson ∧ (∀ required, r'.compile required = r.compile required) ∧
      Listing.ofRequest r' = Listing.ofRequest r := by
  have hcanonical : r.Canonical := Request.canonical_of_ofJson h
  have hread : Request.ofJson .v3 r.toJson = .ok { r with version := .v3 } :=
    Request.decode_toJson hcanonical
  exact ⟨_, hread, rfl, rfl, Request.compile_congr rfl rfl, rfl⟩

/-- Values of every form, with a number beyond the signed range, a null bound and null data. -/
def mixedBody : Json := .object [
  ("query", .object [
    ("match", .array [
      .object [
        ("value", .object [("key", .string "$gt"), ("note", .bool true),
          ("value", .number (.large 9223372036854775808 (by decide)))]),
        ("key", .string "size")],
      .array [.string "tags", .array [.null, .object [("key", .string "")]]]]),
    ("elem_match", .array [.object [("key", .string "items"), ("value", .array [.object []])]])]),
  ("filter", .object [
    ("range", .array [.object [("key", .string "age"),
      ("value", .object [("gte", .number (.int 18)), ("lt", .null)])]]),
    ("nin", .array [.object [("key", .string "state"), ("value", .null)]])]),
  ("limit", .object [("rows", .number (.int 10))]),
  ("data", .null)]

def mixedRequest : Request where
  query := {
    equalities := [
      ⟨"size", .pair "$gt" (.float (9223372036854775808 : UInt64).toFloat)⟩,
      ⟨"tags", .array [.null, .unsupported (.object [("key", .string "")])]⟩]
    elements := [⟨"items", [⟨"", .null⟩]⟩] }
  filter := {
    ranges := [⟨"age", some { gte := some (.number (.int 18)) }⟩]
    noneOf := [⟨"state", none⟩] }
  limit := { rows := 10 }

theorem ofJson_toJson_mixedRequest :
    Request.ofJson .v3 mixedBody = .ok mixedRequest ∧
      Request.ofJson .v3 mixedRequest.toJson = .ok mixedRequest := by
  have hread : Request.ofJson .v3 mixedBody = .ok mixedRequest := rfl
  obtain ⟨r', hr', rfl, -⟩ := ofJson_toJson_of_ofJson hread
  exact ⟨hread, hr'⟩

end FilterQuery
