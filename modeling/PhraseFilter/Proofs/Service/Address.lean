import Mathlib.Data.List.DropRight
import PhraseFilter.Proofs.Text.Split
import PhraseFilter.Service.Address

/-!
# Addresses can be read back

* `Percent.decode?` : the text that a percent-encoded text stands for, `Percent.decode?_encode` : that of an encoded text
  is the text itself; `Percent.mem_encode` : no character of it means anything else in an address;
* `Service.Parameter` : a parameter of a request, `Service.parameters` : those of a request for matches;
* `Service.readParameter?_encodeParameter` : a parameter is read as it was given;
* `Service.read_matchesAddress` : **an address has the base of the service, the player and the parameters, and nothing
  else**.
-/

namespace PhraseFilter

open Text

namespace Percent

/-! ## Percent signs -/

def hexValue? (c : Char) : Option Nat :=
  if c.isDigit then some (c.toNat - '0'.toNat)
  else if 'A' ≤ c ∧ c ≤ 'F' then some (c.toNat - 'A'.toNat + 10)
  else if 'a' ≤ c ∧ c ≤ 'f' then some (c.toNat - 'a'.toNat + 10)
  else none

/-- The bytes of a text in which a percent sign and two hexadecimal digits stand for one byte. -/
def decodeBytes? : List Char → Option (List UInt8)
  | [] => some []
  | '%' :: high :: low :: rest =>
    match hexValue? high, hexValue? low with
    | some h, some l => (decodeBytes? rest).map (UInt8.ofNat (16 * h + l) :: ·)
    | _, _ => none
  | c :: rest => if c = '%' then none else (decodeBytes? rest).map (String.utf8EncodeChar c ++ ·)

/-- The text whose UTF-8 bytes a percent-encoded text gives. -/
def decode? (s : List Char) : Option (List Char) :=
  (decodeBytes? s).bind fun bytes => bytes.toByteArray.utf8Decode?.map Array.toList

section Decode

variable {s rest : List Char} {c : Char}

theorem hexDigit_eq : ∀ n < 16, hexValue? (hexDigit n) = some n ∧ isUnreserved (hexDigit n) = true := by
  decide

theorem hexDigit_mod (n : Nat) : hexDigit n = hexDigit (n % 16) := by
  unfold hexDigit
  rw [Nat.mod_mod]

theorem isUnreserved_hexDigit (n : Nat) : isUnreserved (hexDigit n) = true := by
  rw [hexDigit_mod]
  exact (hexDigit_eq _ (Nat.mod_lt _ (by decide))).2

theorem hexValue?_hexDigit (n : Nat) : hexValue? (hexDigit n) = some (n % 16) := by
  rw [hexDigit_mod]
  exact (hexDigit_eq _ (Nat.mod_lt _ (by decide))).1

theorem decodeBytes?_encodeByte (b : UInt8) (rest : List Char) :
    decodeBytes? (encodeByte b ++ rest) = (decodeBytes? rest).map (b :: ·) := by
  have hb : UInt8.ofNat (16 * (b.toNat / 16 % 16) + b.toNat % 16) = b := by
    have hlt := b.toNat_lt
    have heq : 16 * (b.toNat / 16 % 16) + b.toNat % 16 = b.toNat := by omega
    rw [heq, UInt8.ofNat_toNat]
  show decodeBytes? ('%' :: hexDigit (b.toNat / 16) :: hexDigit b.toNat :: rest) = _
  rw [decodeBytes?, hexValue?_hexDigit, hexValue?_hexDigit]
  dsimp only
  rw [hb]

theorem decodeBytes?_encodeBytes (bytes : List UInt8) (rest : List Char) :
    decodeBytes? (bytes.flatMap encodeByte ++ rest) = (decodeBytes? rest).map (bytes ++ ·) := by
  induction bytes with
  | nil => simp
  | cons b bytes ih =>
      rw [List.flatMap_cons, List.append_assoc, decodeBytes?_encodeByte, ih, Option.map_map]
      rfl

theorem ne_percent_of_isUnreserved (h : isUnreserved c = true) : c ≠ '%' := by
  rintro rfl
  exact absurd h (by decide)

theorem decodeBytes?_cons (h : c ≠ '%') (rest : List Char) :
    decodeBytes? (c :: rest) = (decodeBytes? rest).map (String.utf8EncodeChar c ++ ·) := by
  rw [decodeBytes?, if_neg h]
  intro high low rest' hc
  exact absurd hc h

/-- **An encoded text gives the bytes of the text.** -/
theorem decodeBytes?_encode (s : List Char) : decodeBytes? (encode s) = some (s.flatMap String.utf8EncodeChar) := by
  induction s with
  | nil => rfl
  | cons c s ih =>
      rw [encode, List.flatMap_cons, ← encode, encodeChar]
      split
      · next h =>
        rw [List.singleton_append, decodeBytes?_cons (ne_percent_of_isUnreserved h), ih]
        rfl
      · rw [decodeBytes?_encodeBytes, ih]
        rfl

theorem encode_of_isUnreserved (h : s.all isUnreserved = true) : encode s = s := by
  induction s with
  | nil => rfl
  | cons c s ih =>
      obtain ⟨hc, hs⟩ := Bool.and_eq_true_iff.mp h
      rw [encode, List.flatMap_cons, ← encode, encodeChar, if_pos hc, ih hs]
      rfl

theorem decode?_encode (s : List Char) : decode? (encode s) = some s := by
  have hutf8 : (s.flatMap String.utf8EncodeChar).toByteArray.utf8Decode? = some s.toArray := List.utf8Decode?_utf8Encode
  rw [decode?, decodeBytes?_encode, Option.bind_some, hutf8]
  rfl

/-- An encoded text is made of unreserved characters and percent signs. -/
theorem mem_encode (h : c ∈ encode s) : isUnreserved c = true ∨ c = '%' := by
  obtain ⟨d, -, hd⟩ := List.mem_flatMap.mp h
  unfold encodeChar at hd
  split at hd
  · next hun =>
    obtain rfl := List.mem_singleton.mp hd
    exact Or.inl hun
  · obtain ⟨b, -, hb⟩ := List.mem_flatMap.mp hd
    simp only [encodeByte, List.mem_cons, List.not_mem_nil, or_false] at hb
    rcases hb with rfl | rfl | rfl
    · exact Or.inr rfl
    · exact Or.inl (isUnreserved_hexDigit _)
    · exact Or.inl (isUnreserved_hexDigit _)

theorem not_mem_encode (h : isUnreserved c = false) (hc : c ≠ '%') : c ∉ encode s := by
  intro hmem
  rcases mem_encode hmem with hun | rfl
  · rw [h] at hun
    cases hun
  · exact hc rfl

end Decode

end Percent

namespace Service

open Percent

/-! ## Parameters -/

/-- A parameter of a request: its name, and its value if it has one. -/
abbrev Parameter := List Char × Option (List Char)

/-- The parameter that an argument of a filter stands for: its value follows the first equals sign. -/
def splitArgument (arg : List Char) : Parameter :=
  match splitFirst? '=' arg with
  | some (name, value) => (name, some value)
  | none => (arg, none)

/-- The parameters of a request for matches: the arguments of the filter, the fields of the records, and the key. -/
def parameters (s : Service) (query : String) : List Parameter :=
  ((splitAll '&' query.toList).filter (!·.isEmpty)).map splitArgument ++
    projectedFields.map (fun f => ("project".toList, some f.toList)) ++
    (s.apiKey.map fun key => ("api_key".toList, some key.toList)).toList

/-- A parameter as it stands in an address. -/
def encodeParameter : Parameter → List Char
  | (name, some value) => encode name ++ '=' :: encode value
  | (name, none) => encode name

/-- The parameter that stands in an address: name and value are cut at the first equals sign and decoded. -/
def readParameter? (piece : List Char) : Option Parameter :=
  match splitFirst? '=' piece with
  | some (name, value) => (decode? name).bind fun name => (decode? value).map fun value => (name, some value)
  | none => (decode? piece).map fun name => (name, none)

section Parameters

variable {p : Parameter} {c : Char}

/-- **A parameter is read as it was given.** -/
theorem readParameter?_encodeParameter (p : Parameter) : readParameter? (encodeParameter p) = some p := by
  obtain ⟨name, value⟩ := p
  have hname : '=' ∉ encode name := not_mem_encode (by decide) (by decide)
  cases value with
  | none =>
      have hcut : splitFirst? '=' (encode name) = none := splitFirst?_eq_none_iff.mpr hname
      rw [encodeParameter, readParameter?, hcut]
      dsimp only
      rw [decode?_encode]
      rfl
  | some value =>
      have hcut : splitFirst? '=' (encode name ++ '=' :: encode value) = some (encode name, encode value) :=
        splitFirst?_eq_some_iff.mpr ⟨rfl, hname⟩
      rw [encodeParameter, readParameter?, hcut]
      dsimp only
      rw [decode?_encode, decode?_encode]
      rfl

theorem mem_encodeParameter (h : c ∈ encodeParameter p) : isUnreserved c = true ∨ c = '%' ∨ c = '=' := by
  obtain ⟨name, value⟩ := p
  cases value with
  | none => exact (mem_encode h).imp_right Or.inl
  | some value =>
      rcases List.mem_append.mp h with h | h
      · exact (mem_encode h).imp_right Or.inl
      · rcases List.mem_cons.mp h with h | h
        · exact Or.inr (Or.inr h)
        · exact (mem_encode h).imp_right Or.inl

theorem encodeArgument_eq (arg : List Char) : encodeArgument arg = encodeParameter (splitArgument arg) := by
  unfold encodeArgument splitArgument
  cases splitFirst? '=' arg <;> rfl

theorem encodeParameter_project : ∀ f ∈ projectedFields,
    "project=".toList ++ f.toList = encodeParameter ("project".toList, some f.toList) := by
  have hname : "project=".toList = encode "project".toList ++ ['='] := by
    rw [encode_of_isUnreserved (by decide)]
    simp
  have hfields : (projectedFields.all fun f => f.toList.all isUnreserved) = true := by decide
  intro f hf
  rw [hname, encodeParameter, encode_of_isUnreserved (List.all_eq_true.mp hfields f hf), List.append_assoc,
    List.singleton_append]

theorem encodeParameter_key (key : String) :
    keyArgument key = encodeParameter ("api_key".toList, some key.toList) := by
  have hname : "api_key=".toList = encode "api_key".toList ++ ['='] := by
    rw [encode_of_isUnreserved (by decide)]
    simp
  unfold keyArgument
  rw [hname, encodeParameter, List.append_assoc, List.singleton_append]

theorem arguments_eq (s : Service) (query : String) : s.arguments query = (s.parameters query).map encodeParameter := by
  unfold arguments parameters
  rw [List.map_append, List.map_append, List.map_map, List.map_map]
  refine congrArg₂ _ (congrArg₂ _ ?_ ?_) ?_
  · exact List.map_congr_left fun arg _ => encodeArgument_eq arg
  · exact List.map_congr_left encodeParameter_project
  · cases s.apiKey with
    | none => rfl
    | some key =>
        rw [Option.map_some, Option.map_some, Option.toList_some, Option.toList_some, List.map_singleton,
          encodeParameter_key]

end Parameters

/-! ## Addresses -/

theorem exists_slashes (s : Service) : ∃ slashes, s.baseUrl.toList = s.base ++ slashes ∧ (∀ c ∈ slashes, c = '/') ∧
    s.base.getLast? ≠ some '/' := by
  have hbase : s.base = s.baseUrl.toList.rdropWhile (· == '/') := rfl
  rw [hbase]
  refine ⟨s.baseUrl.toList.rtakeWhile (· == '/'), List.rdropWhile_append_rtakeWhile.symm, fun c hc => ?_, fun hlast => ?_⟩
  · have hslash : (c == '/') = true := List.mem_rtakeWhile_imp (p := (· == '/')) hc
    exact beq_iff_eq.mp hslash
  · obtain ⟨init, hinit⟩ := List.getLast?_eq_some_iff.mp hlast
    have hne : s.baseUrl.toList.rdropWhile (· == '/') ≠ [] := by simp [hinit]
    apply List.rdropWhile_last_not (· == '/') s.baseUrl.toList hne
    simp [hinit]

theorem mem_argument {s : Service} {query : String} {a : List Char} {c : Char} (ha : a ∈ s.arguments query) (hc : c ∈ a) :
    isUnreserved c = true ∨ c = '%' ∨ c = '=' := by
  rw [arguments_eq] at ha
  obtain ⟨p, -, rfl⟩ := List.mem_map.mp ha
  exact mem_encodeParameter hc

theorem mem_arguments {s : Service} {query : String} {c : Char} (h : c ∈ ['&'].intercalate (s.arguments query)) :
    isUnreserved c = true ∨ c ∈ ['%', '=', '&'] := by
  rcases mem_intercalate h with rfl | ⟨a, ha, hca⟩
  · exact Or.inr (by decide)
  · rcases mem_argument ha hca with h | rfl | rfl
    · exact Or.inl h
    · exact Or.inr (by decide)
    · exact Or.inr (by decide)

/-- **What an address for matches says**: the base of the service without the slashes at its end, the player, and after
them the parameters of the request and nothing else. Only the signs of the syntax stand between their characters. -/
theorem read_matchesAddress (s : Service) (id : AccountId) (query : String) :
    ∃ base slashes rest, s.baseUrl.toList = base ++ slashes ∧ (∀ c ∈ slashes, c = '/') ∧ base.getLast? ≠ some '/' ∧
      (s.matchesAddress id query).toList =
        base ++ ("/players/".toList ++ (toString id.toNat).toList) ++ "/matches?".toList ++ rest ∧
      (∀ c ∈ rest, isUnreserved c = true ∨ c ∈ ['%', '=', '&']) ∧
      (splitAll '&' rest).map readParameter? = (s.parameters query).map some := by
  obtain ⟨slashes, hbase, hslashes, hlast⟩ := s.exists_slashes
  refine ⟨s.base, slashes, ['&'].intercalate (s.arguments query), hbase, hslashes, hlast, ?_,
    fun c hc => mem_arguments hc, ?_⟩
  · unfold matchesAddress playerPath
    rw [String.toList_ofList]
  · have hsep : ∀ a ∈ s.arguments query, '&' ∉ a := by
      intro a ha hmem
      rcases mem_argument ha hmem with h | h | h <;> exact absurd h (by decide)
    have hne : s.arguments query ≠ [] := by
      unfold arguments
      simp [projectedFields]
    rw [splitAll_intercalate hsep hne, arguments_eq, List.map_map]
    exact List.map_congr_left fun p _ => readParameter?_encodeParameter p

end Service

end PhraseFilter
