/-!
# Selectors

A sign behind a character that selects the form in which it is shown.
-/

namespace FrontEnd.Text.Emoji

/-- The sign that asks for a picture. -/
def asPicture : Char := '\ufe0f'

/-- The sign that asks for plain text. -/
def asText : Char := '\ufe0e'

end FrontEnd.Text.Emoji
