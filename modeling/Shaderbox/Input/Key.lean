/-!
# Keys

Keys are told apart by their position on the keyboard. The engine has names of its own for the
keys that applications bind; every other position arrives as an unknown key with its number in
the table of positions.
-/

namespace Shaderbox

/-- A key of the engine. -/
inductive Key where
  | escape
  | enter
  | tab
  | backspace
  | space
  | arrowUp
  | arrowDown
  | arrowLeft
  | arrowRight
  | shiftLeft
  | shiftRight
  | controlLeft
  | controlRight
  | altLeft
  | altRight
  /-- The letters, from zero. -/
  | letter (index : Fin 26)
  /-- The function keys, from zero. -/
  | function (index : Fin 12)
  | unknown (code : Nat)
deriving DecidableEq, Repr

namespace Key

/-- The keys that are neither letters nor function keys, with their names. -/
def special : List (String × Key) :=
  [("Escape", .escape), ("Enter", .enter), ("Tab", .tab), ("Backspace", .backspace),
    ("Space", .space), ("ArrowUp", .arrowUp), ("ArrowDown", .arrowDown),
    ("ArrowLeft", .arrowLeft), ("ArrowRight", .arrowRight), ("ShiftLeft", .shiftLeft),
    ("ShiftRight", .shiftRight), ("ControlLeft", .controlLeft), ("ControlRight", .controlRight),
    ("AltLeft", .altLeft), ("AltRight", .altRight)]

/-- The capital letter with the given index. -/
def letterName (index : Fin 26) : String :=
  String.singleton (Char.ofNat ('A'.toNat + index))

/-- The name of the function key with the given index. -/
def functionName (index : Fin 12) : String :=
  "F" ++ toString (index.val + 1)

/-- The letters, with their names. -/
def letters : List (String × Key) :=
  (List.finRange 26).map fun index => (letterName index, .letter index)

/-- The function keys, with their names. -/
def functions : List (String × Key) :=
  (List.finRange 12).map fun index => (functionName index, .function index)

/-- All keys that have a name. -/
def named : List (String × Key) := special ++ letters ++ functions

/-- The key with a given name. -/
def ofName? (name : String) : Option Key := named.lookup name

/-- The key's name. -/
def name : Key → String
  | .letter index => letterName index
  | .function index => functionName index
  | .unknown code => s!"Unknown({code})"
  | key => ((special.find? (·.2 = key)).map (·.1)).getD ""

end Key

/-- A position on the keyboard, or one that the system could not tell. -/
inductive KeyPosition where
  | code (name : String)
  | unidentified
deriving DecidableEq, Repr

namespace KeyPosition

/-- The table of positions. -/
def table : List String := [
  "Backquote", "Backslash", "BracketLeft", "BracketRight", "Comma", "Digit0", "Digit1", "Digit2",
  "Digit3", "Digit4", "Digit5", "Digit6", "Digit7", "Digit8", "Digit9", "Equal", "IntlBackslash",
  "IntlRo", "IntlYen", "KeyA", "KeyB", "KeyC", "KeyD", "KeyE", "KeyF", "KeyG", "KeyH", "KeyI",
  "KeyJ", "KeyK", "KeyL", "KeyM", "KeyN", "KeyO", "KeyP", "KeyQ", "KeyR", "KeyS", "KeyT", "KeyU",
  "KeyV", "KeyW", "KeyX", "KeyY", "KeyZ", "Minus", "Period", "Quote", "Semicolon", "Slash",
  "AltLeft", "AltRight", "Backspace", "CapsLock", "ContextMenu", "ControlLeft", "ControlRight",
  "Enter", "SuperLeft", "SuperRight", "ShiftLeft", "ShiftRight", "Space", "Tab", "Convert",
  "KanaMode", "Lang1", "Lang2", "Lang3", "Lang4", "Lang5", "NonConvert", "Delete", "End", "Help",
  "Home", "Insert", "PageDown", "PageUp", "ArrowDown", "ArrowLeft", "ArrowRight", "ArrowUp",
  "NumLock", "Numpad0", "Numpad1", "Numpad2", "Numpad3", "Numpad4", "Numpad5", "Numpad6",
  "Numpad7", "Numpad8", "Numpad9", "NumpadAdd", "NumpadBackspace", "NumpadClear",
  "NumpadClearEntry", "NumpadComma", "NumpadDecimal", "NumpadDivide", "NumpadEnter",
  "NumpadEqual", "NumpadHash", "NumpadMemoryAdd", "NumpadMemoryClear", "NumpadMemoryRecall",
  "NumpadMemoryStore", "NumpadMemorySubtract", "NumpadMultiply", "NumpadParenLeft",
  "NumpadParenRight", "NumpadStar", "NumpadSubtract", "Escape", "Fn", "FnLock", "PrintScreen",
  "ScrollLock", "Pause", "BrowserBack", "BrowserFavorites", "BrowserForward", "BrowserHome",
  "BrowserRefresh", "BrowserSearch", "BrowserStop", "Eject", "LaunchApp1", "LaunchApp2",
  "LaunchMail", "MediaPlayPause", "MediaSelect", "MediaStop", "MediaTrackNext",
  "MediaTrackPrevious", "Power", "Sleep", "AudioVolumeDown", "AudioVolumeMute", "AudioVolumeUp",
  "WakeUp", "Meta", "Hyper", "Turbo", "Abort", "Resume", "Suspend", "Again", "Copy", "Cut",
  "Find", "Open", "Paste", "Props", "Select", "Undo", "Hiragana", "Katakana", "F1", "F2", "F3",
  "F4", "F5", "F6", "F7", "F8", "F9", "F10", "F11", "F12", "F13", "F14", "F15", "F16", "F17",
  "F18", "F19", "F20", "F21", "F22", "F23", "F24", "F25", "F26", "F27", "F28", "F29", "F30",
  "F31", "F32", "F33", "F34", "F35"]

/-- The keys bound to positions: letter positions carry the letter behind the word `Key`, the
others have the name of their key. -/
def bound : List (String × Key) :=
  Key.special ++ Key.letters.map (fun entry => ("Key" ++ entry.1, entry.2)) ++ Key.functions

/-- The engine's key for a position. -/
def key : KeyPosition → Key
  | .unidentified => .unknown 0
  | .code name => (bound.lookup name).getD (.unknown (table.idxOf name))

end KeyPosition

end Shaderbox
