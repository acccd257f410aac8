/-
This file follows a request from a client to the stand-in that it is configured for. The address of
a stand-in is that of this machine with a port, so the URL below which it is found can be read for
every port; the port of the scheme, and no other one, is left out. What is recorded of a request is
then its method, the path of the endpoint, and the source that it is about, character by character:
the body is written as JSON and UTF-8 and read back from both.
-/

import Mathlib
import Banana.Proofs.Http.Attempts
import Banana.Proofs.Json.Tree
import Banana.Proofs.Text.Utf8
import Banana.Stub.Network

namespace Banana.Stub

open Backend Http Url

/-! ### The address -/

/-- The URL of a stand-in that listens at a port of this machine. -/
def urlAt (port : Nat) : Url :=
  ⟨"http".toList, some ⟨[], [], .ipv4 0x7F000001, if port = 80 then none else some port⟩, ['/'],
    none, none⟩

/-- The name of this machine in the address of a stand-in. -/
def loopback : List Char := ['1', '2', '7', '.', '0', '.', '0', '.', '1']

theorem schemeKind_http : schemeKind "http".toList = .special 80 := by cbv

theorem isIgnored_of_isDigit {c : Char} (isDigit : c.isDigit = true) : isIgnored c = false := by
  by_contra ignored
  simp only [Bool.not_eq_false, isIgnored, Bool.or_eq_true, beq_iff_eq] at ignored
  rcases ignored with (rfl | rfl) | rfl <;> cases isDigit

theorem endsAuthority_of_isDigit {c : Char} (isDigit : c.isDigit = true) :
    (SchemeKind.special 80).endsAuthority c = false := by
  by_contra ends
  simp only [Bool.not_eq_false, SchemeKind.endsAuthority, endsPath, SchemeKind.isSlash,
    SchemeKind.isSpecial, Bool.true_and, Bool.or_eq_true, beq_iff_eq] at ends
  rcases ends with (rfl | rfl) | (rfl | rfl) <;> cases isDigit

theorem isDigit_of_mem_toDigits {value : Nat} {c : Char} (member : c ∈ Nat.toDigits 10 value) :
    c.isDigit = true :=
  Nat.isDigit_of_mem_toDigits (by decide) (by decide) member

/-- A port that is written in digits is read as that port. -/
theorem port?_toDigits {port : Nat} (isPort : port < 65536) :
    port? (.special 80) (Nat.toDigits 10 port ++ ['/']) =
      .ok (if port = 80 then none else some port, ['/']) := by
  have inside : ∀ c ∈ Nat.toDigits 10 port, (c.isDigit || isIgnored c) = true :=
    fun c member => by rw [isDigit_of_mem_toDigits member, Bool.true_or]
  have taken : (Nat.toDigits 10 port ++ ['/']).takeWhile (fun c => c.isDigit || isIgnored c) =
      Nat.toDigits 10 port :=
    (List.takeWhile_append_of_pos inside).trans (List.append_nil _)
  have dropped : (Nat.toDigits 10 port ++ ['/']).dropWhile (fun c => c.isDigit || isIgnored c) =
      ['/'] :=
    List.dropWhile_append_of_pos inside
  have seen : visible (Nat.toDigits 10 port) = Nat.toDigits 10 port :=
    List.filter_eq_self.mpr fun c member => by
      rw [isIgnored_of_isDigit (isDigit_of_mem_toDigits member)]
      rfl
  have value : (Nat.toDigits 10 port).foldl
      (fun value c => 10 * value + (c.toNat - '0'.toNat)) 0 = port :=
    Json.digitsValue_toDigits port
  have notEmpty : (Nat.toDigits 10 port).isEmpty = false :=
    List.isEmpty_eq_false_iff.mpr Nat.toDigits_ne_nil
  have fits : decide (65536 ≤ port) = false := decide_eq_false (Nat.not_le_of_lt isPort)
  unfold port?
  simp only [taken, dropped, seen, value, notEmpty, fits, Bool.false_or]
  by_cases isDefault : port = 80
  · subst isDefault
    rfl
  · rw [if_neg (by decide), if_neg (by simp [Ne.symm isDefault]), if_neg isDefault]

/-- An address has no user name before it. -/
theorem credentials?_address {digits : List Char} (allDigits : ∀ c ∈ digits, c.isDigit = true) :
    credentials? (.special 80) (loopback ++ ':' :: (digits ++ ['/'])) =
      .ok (([], []), loopback ++ ':' :: (digits ++ ['/'])) := by
  have inside : (loopback ++ ':' :: (digits ++ ['/'])).takeWhile
      (fun c => !(SchemeKind.special 80).endsAuthority c) = loopback ++ ':' :: digits := by
    have nameInside : loopback.all (fun c => !(SchemeKind.special 80).endsAuthority c) = true :=
      rfl
    rw [List.takeWhile_append_of_pos (List.all_eq_true.mp nameInside),
      List.takeWhile_cons_of_pos rfl, List.takeWhile_append_of_pos]
    · exact congrArg (loopback ++ ':' :: ·) (List.append_nil _)
    · intro c member
      rw [endsAuthority_of_isDigit (allDigits c member)]
      rfl
  have noSign : (loopback ++ ':' :: digits).contains '@' = false := by
    rw [List.contains_eq_mem, decide_eq_false_iff_not, List.mem_append, List.mem_cons]
    rintro (isName | isColon | isDigit)
    · revert isName
      decide
    · cases isColon
    · cases allDigits '@' isDigit
  unfold credentials?
  simp only [inside, noSign]
  rfl

/-- The name of this machine is written in digits and dots, which every domain name keeps. -/
theorem ascii?_loopback : Domain.ascii? loopback = some loopback := by decide +kernel

theorem readHost?_loopback :
    readHost? (.special 80) (visible loopback) = .ok (.ipv4 0x7F000001) := by
  have decoded : (Text.decodeUtf8? (percentDecode loopback)).bind Domain.ascii? =
      some loopback := by
    have plain : Text.decodeUtf8? (percentDecode loopback) = some loopback := by cbv
    rw [plain, Option.bind_some, ascii?_loopback]
  show specialHost? loopback = _
  unfold specialHost?
  split
  · next isBracket => cases isBracket
  · rw [decoded]
    rfl

theorem withAuthority?_address {port : Nat} (isPort : port < 65536) :
    withAuthority? "http".toList (loopback ++ ':' :: (Nat.toDigits 10 port ++ ['/'])) =
      .ok (urlAt port) := by
  have noName := credentials?_address fun c (member : c ∈ Nat.toDigits 10 port) =>
    isDigit_of_mem_toDigits member
  have host : hostChars (.special 80) false
      (loopback ++ ':' :: (Nat.toDigits 10 port ++ ['/'])) = loopback := by
    cbv
  have behind : (loopback ++ ':' :: (Nat.toDigits 10 port ++ ['/'])).drop loopback.length =
      ':' :: (Nat.toDigits 10 port ++ ['/']) :=
    List.drop_left
  unfold withAuthority? authority?
  simp only [schemeKind_http, noName, host, readHost?_loopback, behind, port?_toDigits isPort,
    bind, Except.bind, pure, Except.pure]
  cbv

/-- A text that starts and ends with characters that count is not trimmed. -/
theorem trimmed_eq_self {first last : Char} {middle : List Char} (starts : 0x20 < first.toNat)
    (ends : 0x20 < last.toNat) :
    trimmed (first :: (middle ++ [last])) = first :: (middle ++ [last]) := by
  have startsInside : decide (first.toNat ≤ 0x20) = false :=
    decide_eq_false (Nat.not_le_of_lt starts)
  have endsInside : decide (last.toNat ≤ 0x20) = false := decide_eq_false (Nat.not_le_of_lt ends)
  unfold trimmed
  dsimp only
  rw [List.dropWhile_cons, startsInside, if_neg Bool.false_ne_true, ← List.cons_append,
    List.reverse_append, List.reverse_singleton, List.singleton_append, List.dropWhile_cons,
    endsInside, if_neg Bool.false_ne_true, List.reverse_cons, List.reverse_reverse]

/-- The address of a stand-in is the URL at its port. -/
theorem parse?_address {port : Nat} (isPort : port < 65536) :
    Url.parse? ("http://" ++ ("127.0.0.1:" ++ toString port) ++ "/") = .ok (urlAt port) := by
  have digits : (toString port).toList = Nat.toDigits 10 port := String.toList_ofList
  have written : ("http://" ++ ("127.0.0.1:" ++ toString port) ++ "/").toList =
      "http://".toList ++ (loopback ++ ':' :: (Nat.toDigits 10 port ++ ['/'])) := by
    simp only [String.toList_append, digits, List.append_assoc]
    rfl
  have whole : trimmed ("http://".toList ++ (loopback ++ ':' :: (Nat.toDigits 10 port ++ ['/']))) =
      "http://".toList ++ (loopback ++ ':' :: (Nat.toDigits 10 port ++ ['/'])) := by
    have ends : "http://".toList ++ (loopback ++ ':' :: (Nat.toDigits 10 port ++ ['/'])) =
        'h' :: (("ttp://".toList ++ loopback ++ ':' :: Nat.toDigits 10 port) ++ ['/']) := by
      simp only [List.append_assoc, List.cons_append]
      rfl
    rw [ends, trimmed_eq_self (by decide) (by decide)]
  have scheme (text : List Char) :
      scheme? ("http://".toList ++ text) = some ("http".toList, "//".toList ++ text) := by
    cbv
  have slashes (text : List Char) :
      leadingSlashes ("//".toList ++ (loopback ++ text)) = ['/', '/'] := by
    cbv
  unfold Url.parse? withScheme?
  rw [written, whole, scheme]
  simp only [schemeKind_http, slashes, Option.filter_none]
  exact withAuthority?_address isPort

/-! ### The request -/

/-- The configuration for a stand-in at a port. -/
def configAt (port : Nat) (retries : UInt32) : Config :=
  { baseUrl := urlAt port, retries := retries }

theorem config?_eq {port : Nat} (isPort : port < 65536) :
    Stub.config? ("127.0.0.1:" ++ toString port) = .ok (configAt port 2) := by
  rw [Stub.config?, Config.ofBase?, parse?_address isPort]
  rfl

/-- The URL of an endpoint of a stand-in. -/
def endpointUrl (port : Nat) (endpoint : Endpoint) : Url :=
  { urlAt port with path := (Config.default.path endpoint).toList }

theorem url?_configAt (port : Nat) (retries : UInt32) (endpoint : Endpoint) :
    (configAt port retries).url? endpoint = .ok (endpointUrl port endpoint) := by
  cases endpoint <;> cbv

/-- Every endpoint of a stand-in can be requested. -/
theorem request?_configAt (port : Nat) (retries : UInt32) (endpoint : Endpoint)
    (content : String) :
    request? (configAt port retries) endpoint content =
      .ok (requestFor endpoint (endpointUrl port endpoint) content) := by
  have requestable : requestFault? (endpointUrl port endpoint) = none := rfl
  simp only [request?, url?_configAt, requestable]

/-- The content that a body names is the source that it was written for. -/
theorem contentOf_contentBody (source : String) :
    contentOf (Text.encodeUtf8 (contentBody source).toList) = source := by
  have portable : Json.IsPortable Json.maxDepth (.object [("content", .string source)]) :=
    (Json.isPortable_object _).mpr ⟨List.pairwise_singleton _ _, fun field member => by
      cases List.mem_singleton.mp member
      exact ⟨Json.isReadable_string _ source, Json.hasWords_string source⟩⟩
  have parsed : Json.parse? (Json.compact (.object [("content", .string source)])) =
      some (.object [("content", .string source)]) := by
    rw [Json.parse?, Json.parse?_compact]
    exact Json.value?_toNode portable
  rw [contentOf, Text.decodeUtf8?_encodeUtf8, contentBody, Json.toText, String.toList_ofList,
    Option.bind_some, parsed]
  rfl

/-- What is recorded of the request for a catalog. -/
theorem recordedOf_catalog (port : Nat) (content : String) :
    recordedOf (requestFor .catalog (endpointUrl port .catalog) content) =
      ⟨"GET", "/banana/metadata", ""⟩ := by
  cbv

/-- What is recorded of a request about a source. -/
theorem recordedOf_source (port : Nat) {endpoint : Endpoint} (isPosted : endpoint ≠ .catalog)
    (source : String) :
    recordedOf (requestFor endpoint (endpointUrl port endpoint) source) =
      ⟨"POST", Config.default.path endpoint, source⟩ := by
  have posted : Method.ofEndpoint endpoint = .post := by
    cases endpoint with
    | catalog => exact absurd rfl isPosted
    | types => rfl
    | check => rfl
    | submission => rfl
  rw [recordedOf, requestFor, posted, if_neg isPosted, contentOf_contentBody]
  exact congrArg (Recorded.mk "POST" · source) String.ofList_toList

end Banana.Stub
