import Sift.Postgres.Wire
import Sift.Text.Blank
import Sift.Text.Hexadecimal

/-!
# Connection strings

The two ways to say where a PostgreSQL server is: a URL, and a list of `key = value` pairs. Either
is read as a list of settings, in the order in which they stand. A string is valid when it can be
read and each of its settings has a value that its key allows. Percent escapes of a URL are undone
in every part; a socket path and a password may hold any bytes and are not kept.
-/
namespace Sift.Postgres.Address

/-- One setting. -/
structure Setting where
  key : String
  value : String
deriving DecidableEq

/-- Undo percent escapes; a percent sign without two digits stands for itself. -/
def unescape : List Char → List UInt8
  | '%' :: a :: b :: rest =>
    match Text.hexValue? a, Text.hexValue? b with
    | some x, some y => UInt8.ofNat (x * 16 + y) :: unescape rest
    | _, _ => 0x25 :: unescape (a :: b :: rest)
  | c :: rest => String.utf8EncodeChar c ++ unescape rest
  | [] => []

/-- A part of a URL as text. -/
def part? (cs : List Char) : Option String := readText (unescape cs)

/-- The settings of one host; a path is not kept. -/
def host? (cs : List Char) : Option (List Setting) :=
  if (unescape cs).head? = some 0x2F then some [] else (part? cs).map fun s => [⟨"host", s⟩]

/-- Decimal digits as a number. -/
def decimal? (cs : List Char) : Option Nat :=
  if cs ≠ [] ∧ cs.all Char.isDigit then
    some (cs.foldl (fun n c => n * 10 + (c.toNat - 48)) 0)
  else none

/-- A number below a bound, with or without a plus sign. -/
def isUnsigned (bound : Nat) (s : String) : Bool :=
  let digits := match s.toList with
    | '+' :: rest => rest
    | cs => cs
  (decimal? digits).any (· < bound)

/-- A number of 64 bits with or without a sign. -/
def isSigned (s : String) : Bool :=
  match s.toList with
  | '-' :: rest => (decimal? rest).any (· ≤ 9223372036854775808)
  | _ => isUnsigned 9223372036854775808 s

/-- One of the four numbers of an address. -/
def isOctet (cs : List Char) : Bool :=
  cs.length ≤ 3 && (cs.head? ≠ some '0' || cs.length = 1) && (decimal? cs).any (· < 256)

/-- Four numbers with points between them. -/
def isIpv4 (cs : List Char) : Bool :=
  let octets := cs.splitOn '.'
  octets.length = 4 && octets.all isOctet

/-- How many of the eight groups some colon-separated groups stand for. -/
def groupCount? : List (List Char) → Option Nat
  | [] => some 0
  | [last] =>
    if isIpv4 last then some 2
    else if last.length ∈ [1, 2, 3, 4] && last.all fun c => (Text.hexValue? c).isSome then some 1
    else none
  | g :: rest =>
    if g.length ∈ [1, 2, 3, 4] && g.all fun c => (Text.hexValue? c).isSome then
      (groupCount? rest).map (· + 1)
    else none

/-- The text before the first doubled colon and the text behind it. -/
def atGap : List Char → List Char × Option (List Char)
  | ':' :: ':' :: rest => ([], some rest)
  | c :: rest => let (before, behind) := atGap rest; (c :: before, behind)
  | [] => ([], none)

/-- The groups of a text; the empty text has none. -/
def groupsOf (cs : List Char) : List (List Char) := if cs.isEmpty then [] else cs.splitOn ':'

/-- Eight groups, or fewer around a gap. -/
def isIpv6 (cs : List Char) : Bool :=
  match atGap cs with
  | (whole, none) => groupCount? (groupsOf whole) == some 8
  | (before, some behind) =>
    !((groupsOf before).any isIpv4) &&
      ((groupCount? (groupsOf before)).bind fun m =>
        (groupCount? (groupsOf behind)).map fun n => m + n).any (· ≤ 7)

/-- An address in either form. -/
def isIpAddress (s : String) : Bool := isIpv4 s.toList || isIpv6 s.toList

/-- The items of a value. -/
def commaItems (s : String) : List String := (s.toList.splitOn ',').map String.ofList

/-- The key is known and allows the value. -/
def Setting.isValid (s : Setting) : Bool :=
  match s.key with
  | "user" | "password" | "dbname" | "options" | "application_name" | "host" => true
  | "sslmode" => s.value ∈ ["disable", "prefer", "require"]
  | "sslnegotiation" => s.value ∈ ["postgres", "direct"]
  | "hostaddr" => (commaItems s.value).all isIpAddress
  | "port" => (commaItems s.value).all fun p => p.isEmpty || isUnsigned UInt16.size p
  | "connect_timeout" | "tcp_user_timeout" | "keepalives_idle" | "keepalives_interval" =>
    isSigned s.value
  | "keepalives" => isUnsigned UInt64.size s.value
  | "keepalives_retries" => isUnsigned UInt32.size s.value
  | "target_session_attrs" => s.value ∈ ["any", "read-write", "read-only"]
  | "channel_binding" => s.value ∈ ["disable", "prefer", "require"]
  | "load_balance_hosts" => s.value ∈ ["disable", "random"]
  | _ => false

/-! ## URLs -/

/-- The rest of a text behind a URL scheme. -/
def afterScheme? (cs : List Char) : Option (List Char) :=
  let schemes := ["postgres://", "postgresql://"].map String.toList
  (schemes.find? fun s => s.isPrefixOf cs).map fun s => cs.drop s.length

/-- The settings before an at sign, and the rest behind it. -/
def credentials? (cs : List Char) : Option (List Setting × List Char) :=
  if '@' ∈ cs then
    let name := (cs.takeWhile (· ≠ '@')).takeWhile (· ≠ ':')
    (part? name).map fun user => ([⟨"user", user⟩], (cs.dropWhile (· ≠ '@')).tail)
  else some ([], cs)

/-- A host with its port, if it names one. A host in brackets may hold colons. -/
def hostPort? (cs : List Char) : Option (List Char × Option (List Char)) :=
  match cs with
  | '[' :: inner =>
    match inner.dropWhile (· ≠ ']') with
    | [']'] => some (inner.takeWhile (· ≠ ']'), none)
    | ']' :: ':' :: port => some (inner.takeWhile (· ≠ ']'), some port)
    | _ => none
  | _ =>
    match cs.dropWhile (· ≠ ':') with
    | [] => some (cs, none)
    | _ :: port => some (cs.takeWhile (· ≠ ':'), some port)

/-- The settings of one host and its port. -/
def hostSettings? (cs : List Char) : Option (List Setting) := do
  let (name, port) ← hostPort? cs
  let host ← host? name
  let port ← part? (port.getD "5432".toList)
  some (host ++ [⟨"port", port⟩])

/-- The settings of the hosts of a URL. -/
def hosts? (cs : List Char) : Option (List Setting) :=
  if cs.isEmpty then some [] else (List.flatten ·) <$> (cs.splitOn ',').mapM hostSettings?

/-- The settings behind the question mark of a URL. -/
def query? (cs : List Char) : Option (List Setting) :=
  if cs.isEmpty then some []
  else
    match _shape : cs.dropWhile (· ≠ '=') with
    | [] => none
    | _ :: rest => do
      let key ← part? (cs.takeWhile (· ≠ '='))
      let text := rest.takeWhile (· ≠ '&')
      let first ← if key = "host" then host? text else (part? text).map fun v => [⟨key, v⟩]
      let more ← query? (rest.dropWhile (· ≠ '&')).tail
      some (first ++ more)
termination_by cs.length
decreasing_by
  have shorter := (List.dropWhile_suffix (fun c : Char => decide (c ≠ '=')) (l := cs)).length_le
  have within := (List.dropWhile_suffix (fun c : Char => decide (c ≠ '&')) (l := rest)).length_le
  rw [_shape] at shorter
  simp only [List.length_tail, List.length_cons] at *
  omega

/-- The settings of a URL behind its scheme. -/
def url? (cs : List Char) : Option (List Setting) := do
  let (user, rest) ← credentials? cs
  let isEnd (c : Char) : Bool := c = '/' || c = '?'
  let hosts ← hosts? (rest.takeWhile fun c => !isEnd c)
  let rest := rest.dropWhile fun c => !isEnd c
  let (path, rest) := match rest with
    | '/' :: more => (more.takeWhile (· ≠ '?'), more.dropWhile (· ≠ '?'))
    | _ => ([], rest)
  let name ← part? path
  let query ← query? rest.tail
  some (user ++ hosts ++ (if path.isEmpty then [] else [⟨"dbname", name⟩]) ++ query)

/-! ## Pairs -/

/-- A value up to the next blank, and the rest; a backslash takes the next character as it is. -/
def plainValue : List Char → List Char × List Char
  | [] => ([], [])
  | '\\' :: c :: rest => let (v, r) := plainValue rest; (c :: v, r)
  | ['\\'] => ([], [])
  | c :: rest =>
    if Text.isBlank c then ([], c :: rest)
    else let (v, r) := plainValue rest; (c :: v, r)

/-- A value up to the closing quote, and the rest behind it. -/
def quotedValue? : List Char → Option (List Char × List Char)
  | [] => none
  | '\'' :: rest => some ([], rest)
  | '\\' :: c :: rest => (quotedValue? rest).map fun (v, r) => (c :: v, r)
  | ['\\'] => none
  | c :: rest => (quotedValue? rest).map fun (v, r) => (c :: v, r)

/-- A value in either form; only a quoted one may be empty. -/
def value? (cs : List Char) : Option (List Char × List Char) :=
  match cs with
  | '\'' :: rest => quotedValue? rest
  | _ =>
    let (v, rest) := plainValue cs
    if v.isEmpty then none else some (v, rest)

/-- The settings of a list of pairs, which ends where no key follows. Each pair takes one unit of
fuel and at least one character. -/
def pairsFrom? : Nat → List Char → Option (List Setting)
  | 0, _ => none
  | fuel + 1, cs =>
    let isKey (c : Char) : Bool := !Text.isBlank c && c ≠ '='
    let start := cs.dropWhile Text.isBlank
    let key := start.takeWhile isKey
    if key.isEmpty then some []
    else
      match (start.dropWhile isKey).dropWhile Text.isBlank with
      | '=' :: rest => do
        let (v, rest) ← value? (rest.dropWhile Text.isBlank)
        let more ← pairsFrom? fuel rest
        some (⟨String.ofList key, String.ofList v⟩ :: more)
      | _ => none

/-- The settings of a connection string. -/
def settings? (text : String) : Option (List Setting) :=
  let cs := text.toList
  match afterScheme? cs with
  | some rest => url? rest
  | none => pairsFrom? (cs.length + 1) cs

/-- A connection string can be read, and its settings have allowed values. -/
def isValid (text : String) : Bool := (settings? text).any fun ss => ss.all Setting.isValid

end Sift.Postgres.Address
