import Diagnosis.Pattern.Regex

/-!
# What secrets look like

The kinds of secrets that are known by their form: keys and tokens of services, credentials in
connection strings, private keys. A secret of no such form is recognised where it is assigned to
something that is named like one.
-/

namespace Diagnosis.Secret

open Diagnosis.Pattern

/-- A form of secrets. -/
structure Form where
  /-- The kind of secret. -/
  kind : String
  /-- What it looks like. -/
  regex : Regex
  /-- The number of groups to which a replacement may refer. -/
  groups : Nat := 0
  deriving Repr

/-- The ASCII letters and digits. -/
def alphanumeric : CharTest := .either (.range 'a' 'z') (.either (.range 'A' 'Z') (.range '0' '9'))

/-- Word characters and the hyphen. -/
def wordOrHyphen : CharTest := .either .word (.only '-')

/-- ASCII letters, digits, the underscore and the hyphen. -/
def urlSafe : CharTest := .either alphanumeric (.anyOf '_' ['-'])

/-- Any character but the given one. -/
def notChar (c : Char) : CharTest := .except (.only c)

/-- A fixed text in any case. -/
def anyCase (s : String) : Regex := .textIn true s

/-- A value of sixteen characters or more that is assigned to something named like a secret. -/
def assignedSecret : Form :=
  { kind := "Generic secret"
    regex := .row
      [.oneOf
          [.row [anyCase "api", .optional (.one (.anyOf '_' ['-']) true), anyCase "key"],
            anyCase "secret", anyCase "token", anyCase "password", anyCase "credential"],
        .run .blank 0, .one (.anyOf '=' [':']) true, .run .blank 0,
        .optional (.one (.anyOf '"' ['\'']) true), .run wordOrHyphen 16]
    groups := 1 }

/-- A fixed text followed by characters of a kind. -/
def tagged (kind tag : String) (rest : Regex) : Form :=
  { kind, regex := .both (.text tag) rest }

/-- A token of a chat service. -/
def chatToken : Form :=
  { kind := "Slack token"
    regex := .row [.text "xox", .one (.anyOf 'b' ['a', 'p', 'r', 's']) false, .text "-",
      .run wordOrHyphen 1] }

/-- The names of databases in connection strings. -/
def databaseScheme : Regex :=
  .oneOf
    [.both (anyCase "postgres") (.optional (anyCase "ql")), anyCase "mysql",
      .both (anyCase "mongodb") (.optional (anyCase "+srv")), anyCase "redis", anyCase "amqp"]

/-- A connection string with a name and a password. -/
def connectionString : Form :=
  { kind := "Database connection string"
    regex := .row [databaseScheme, .text "://", .run (notChar ':') 1, .text ":",
      .run (notChar '@') 1, .text "@", .run (.except .blank) 1]
    groups := 1 }

/-- The first line of a private key. -/
def privateKey : Form :=
  { kind := "Private key header"
    regex := .row [.text "-----BEGIN ",
      .optional (.oneOf [.text "RSA ", .text "EC ", .text "DSA ", .text "OPENSSH "]),
      .text "PRIVATE KEY-----"] }

/-- A signed token of three parts. -/
def signedToken : Form :=
  { kind := "JWT token"
    regex := .row [.text "eyJ", .run urlSafe 0, .text ".eyJ", .run urlSafe 0, .text ".",
      .run urlSafe 0] }

/-- The forms of secrets, in the order in which they are looked for. -/
def forms : List Form :=
  [assignedSecret, chatToken,
    tagged "GitHub PAT" "ghp_" (.exactly alphanumeric 36),
    tagged "GitHub fine-grained PAT" "github_pat_" (.run (.either alphanumeric (.only '_')) 22),
    tagged "OpenAI legacy API key" "sk-" (.exactly alphanumeric 48),
    tagged "OpenAI project API key" "sk-proj-" (.run alphanumeric 20),
    tagged "Anthropic API key" "sk-ant-" (.run wordOrHyphen 40),
    tagged "Google API key" "AIza" (.exactly urlSafe 35),
    tagged "AWS access key ID" "AKIA" (.exactly (.either (.range '0' '9') (.range 'A' 'Z')) 16),
    connectionString, privateKey, signedToken]

end Diagnosis.Secret
