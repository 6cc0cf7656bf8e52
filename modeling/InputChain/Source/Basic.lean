import InputChain.World
import InputChain.World.Script

/-!
# Sources

A source is one input of a stream: an identifier, by which it is reported, and a provider, which
opens it. Opening gives a reader or fails; it takes nothing from the input yet.

* `Provider`, `Provider.name`, `Provider.opened`.
* `Source`, with `Source.standardInput`, `Source.file` and `Source.inline`.
-/

namespace InputChain

/-- The identifier of standard input. -/
def standardInputId : String := "-"

/-- What opens a source. -/
inductive Provider (σ : Type) where
  /-- Bytes in memory. -/
  | memory (name : String) (content : Bytes)
  /-- The file of this path. -/
  | file (path : String)
  /-- Standard input. -/
  | standardInput
  /-- Something that opens to a reader of known answers, or fails to open. -/
  | scripted (name : String) (opening : Except IoError σ)

/-- An open reader: its answers, or standard input, whose answers depend on who read it before. -/
inductive Reader (σ : Type) where
  | script (answers : σ)
  | standardInput
  deriving DecidableEq, Repr

namespace Provider

variable {σ : Type}

/-- The provider's own identifier. -/
def name : Provider σ → String
  | .memory name _ => name
  | .file path => path
  | .standardInput => standardInputId
  | .scripted name _ => name

/-- Opens the source. A directory opens, and fails whenever it is read. -/
def opened [Behaviour σ] (files : FileTree) : Provider σ → Except IoError (Reader σ)
  | .memory _ content => .ok (.script (Behaviour.serving content))
  | .file path =>
    match files.find path with
    | .ok (.file content) => .ok (.script (Behaviour.serving content))
    | .ok .directory => .ok (.script (Behaviour.failing (.system .isADirectory)))
    | .error fault => .error (.system fault)
  | .standardInput => .ok .standardInput
  | .scripted _ (.ok answers) => .ok (.script answers)
  | .scripted _ (.error error) => .error error

end Provider

/-- One input of a stream. -/
structure Source (σ : Type) where
  /-- The identifier by which the source is reported. -/
  id : String
  provider : Provider σ

namespace Source

variable {σ : Type}

/-- Standard input. -/
def standardInput : Source σ :=
  ⟨standardInputId, .standardInput⟩

/-- The file of a path, which is its identifier too. -/
def file (path : String) : Source σ :=
  ⟨path, .file path⟩

/-- A text in memory. -/
def inline (id text : String) : Source σ :=
  ⟨id, .memory id (Utf8.encode text)⟩

end Source

end InputChain
