/-! Route tokens: what a file or directory name stands for in a route path.

`about.tsx` is `about`, `index.tsx` is the empty token, a bracketed parameter `[id]`
is `:id`, and a catch-all `[...slug]` is a star. Names that follow no convention pass
through unchanged. An ending counts also in front of one final line feed.
-/

set_option autoImplicit false

namespace PageRoutes.Route

/-- Removes `ending` where the text ends in it, or ends in it and one line feed. -/
def dropEnding (ending text : List Char) : List Char :=
  if ending.isSuffixOf text then text.take (text.length - ending.length)
  else if (ending ++ ['\n']).isSuffixOf text then
    text.take (text.length - (ending.length + 1)) ++ ['\n']
  else text

def dropExtension (text : List Char) : List Char :=
  let shorter := dropEnding ".tsx".toList text
  if shorter = text then dropEnding ".jsx".toList text else shorter

/-- Reads `opening`, at least one character other than `]`, and a `]` at the start of the text:
what stands inside and what comes after. -/
def group? (opening text : List Char) : Option (List Char × List Char) :=
  if opening.isPrefixOf text then
    let afterOpening := text.drop opening.length
    match afterOpening.takeWhile (· ≠ ']'), afterOpening.dropWhile (· ≠ ']') with
    | c :: inside, ']' :: rest => some (c :: inside, rest)
    | _, _ => none
  else none

theorem length_rest_lt_of_group? {opening text inside rest : List Char}
    (found : group? opening text = some (inside, rest)) : rest.length < text.length := by
  unfold group? at found
  split at found
  · simp only at found
    split at found
    · rename_i c start tail before after
      cases found
      have whole := congrArg List.length
        (List.takeWhile_append_dropWhile (p := (· ≠ ']')) (l := text.drop opening.length))
      rw [before, after] at whole
      simp only [List.length_append, List.length_cons, List.length_drop] at whole
      omega
    · cases found
  · cases found

/-- Replaces every group with this opening, from left to right. -/
def replaceGroups (opening : List Char) (write : List Char → List Char) (text : List Char) :
    List Char :=
  match found : group? opening text with
  | some (inside, rest) =>
    have := length_rest_lt_of_group? found
    write inside ++ replaceGroups opening write rest
  | none =>
    match text with
    | [] => []
    | c :: rest => c :: replaceGroups opening write rest
termination_by text.length

def catchAllOpening : List Char := "[...".toList

def dynamicOpening : List Char := ['[']

def tokenChars (raw : List Char) : List Char :=
  let slashed := raw.map fun c => if c = '\\' then '/' else c
  let shortened := dropEnding "/index".toList (dropExtension slashed)
  let named := if shortened = "index".toList then [] else shortened
  replaceGroups dynamicOpening (':' :: ·) (replaceGroups catchAllOpening (fun _ => ['*']) named)

def token (raw : String) : String :=
  String.ofList (tokenChars raw.toList)

end PageRoutes.Route
