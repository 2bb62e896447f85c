import Switchboard.Http.Percent
import Switchboard.Text

/-!
Credentials in addresses. They are not part of what a server is asked for: a client takes them out
of an address and tells them in a header, in base sixty-four.
-/
namespace Switchboard.Http

namespace Base64

def char (n : Nat) : Char :=
  if n < 26 then Char.ofNat (65 + n)
  else if n < 52 then Char.ofNat (71 + n)
  else if n < 62 then Char.ofNat (n - 4)
  else if n = 62 then '+'
  else '/'

def group (a b c : Nat) : List Char :=
  [char (a / 4), char (a % 4 * 16 + b / 16), char (b % 16 * 4 + c / 64), char (c % 64)]

def encode : List UInt8 → List Char
  | [] => []
  | [a] => (group a.toNat 0 0).take 2 ++ ['=', '=']
  | [a, b] => (group a.toNat b.toNat 0).take 3 ++ ['=']
  | a :: b :: c :: rest => group a.toNat b.toNat c.toNat ++ encode rest

theorem char_isFieldChar (n : Nat) : isFieldChar (char n) = true := by
  by_cases small : n < 63
  · have every : ∀ n < 63, isFieldChar (char n) = true := by decide
    exact every n small
  · have slash : char n = '/' := by
      unfold char
      rw [if_neg (by omega), if_neg (by omega), if_neg (by omega), if_neg (by omega)]
    rw [slash]
    rfl

theorem group_isFieldChar (a b c : Nat) : ∀ sign ∈ group a b c, isFieldChar sign = true := by
  simp [group, char_isFieldChar]

theorem encode_isFieldChar (bytes : List UInt8) :
    ∀ sign ∈ encode bytes, isFieldChar sign = true := by
  have padding : isFieldChar '=' = true := rfl
  induction bytes using encode.induct with
  | case1 => simp [encode]
  | case2 a | case3 a b =>
      refine List.forall_mem_append.mpr ⟨fun sign taken => ?_, by simp [padding]⟩
      exact group_isFieldChar _ _ _ sign (List.mem_of_mem_take taken)
  | case4 a b c rest ih => exact List.forall_mem_append.mpr ⟨group_isFieldChar _ _ _, ih⟩

end Base64

structure Credentials where
  user : List Char := []
  password : Option (List Char) := none
  deriving DecidableEq, Repr

def optionalPart (mark : Char) : Option (List Char) → List Char
  | none => []
  | some part => mark :: part

namespace Credentials

def isEmpty (credentials : Credentials) : Bool :=
  credentials.user.isEmpty && credentials.password.isNone

/-- Reads a name and, after a colon, a password. An empty password is none. -/
def ofText (cs : List Char) : Credentials :=
  let encode := Percent.encode Percent.isReservedInUser
  let cut := cutAt ':' cs
  ⟨encode cut.1, (cut.2.filter fun password => !password.isEmpty).map encode⟩

def text (credentials : Credentials) : List Char :=
  if credentials.isEmpty then []
  else credentials.user ++ optionalPart ':' credentials.password ++ ['@']

/-- The name and the password, decoded, if there is one of them and the name is text. A password
that is no text counts as none. -/
def login? (credentials : Credentials) : Option (List Char × Option (List Char)) :=
  match Percent.decodeText? credentials.user, credentials.password.bind Percent.decodeText? with
  | none, _ => none
  | some [], none => none
  | some user, password => some (user, password)

def authorization? (credentials : Credentials) : Option String :=
  credentials.login?.map fun login =>
    "Basic " ++ String.ofList (Base64.encode
      (String.ofList (login.1 ++ ':' :: login.2.getD [])).toUTF8.toList)

/-- Whatever credentials are, what is told of them can stand in a header. -/
theorem authorization?_isFieldValue {credentials : Credentials} {value : String}
    (told : credentials.authorization? = some value) : isFieldValue value = true := by
  obtain ⟨login, _, rfl⟩ := Option.map_eq_some_iff.mp told
  rw [isFieldValue, String.toList_append, List.all_append, Bool.and_eq_true]
  refine ⟨by decide, ?_⟩
  rw [String.toList_ofList, List.all_eq_true]
  exact Base64.encode_isFieldChar _

example :
    (Credentials.ofText "me:p%40w".toList).authorization? = some "Basic bWU6cEB3" := by
  decide +kernel

end Credentials
end Switchboard.Http
