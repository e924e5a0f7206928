/-!
# Code pages

Encodings with one byte a character that agree with ASCII in its lower half. A
page lists the characters of the highest bytes; the bytes between ASCII and these
are control characters. A byte without a character is listed as replaced.
-/

set_option autoImplicit false

namespace ArtifactAudit

structure CodePage where
  /-- The name by which the page is known. -/
  name : String
  /-- Other names. -/
  aliases : List String
  /-- The characters of the highest bytes, up to the last one. -/
  upper : String
  deriving DecidableEq, Repr

namespace CodePage

/-- The character of a byte. -/
def charOf (page : CodePage) (b : UInt8) : Char :=
  let characters := page.upper.toList
  let first := 0x100 - characters.length
  if b.toNat < first then Char.ofNat b.toNat
  else (characters[b.toNat - first]?).getD '\ufffd'

/-- The text of bytes. -/
def decode (page : CodePage) (bytes : List UInt8) : List Char :=
  bytes.map page.charOf

/-- IBM code page 437, Latin with box drawing. -/
def ibm437 : CodePage where
  name := "cp437"
  aliases := ["437", "cspc8codepage437", "ibm437"]
  upper :=
    "ÇüéâäàåçêëèïîìÄÅÉæÆôöòûùÿÖÜ¢£¥₧ƒáíóúñÑªº¿⌐¬½¼¡«»░▒▓│┤╡╢╖╕╣║╗╝╜╛┐└┴┬├─┼╞╟╚╔╩╦╠═╬╧╨╤╥╙" ++
      "╘╒╓╫╪┘┌█▄▌▐▀αßΓπΣσµτΦΘΩδ∞φε∩≡±≥≤⌠⌡÷≈°∙·√ⁿ²■\u00a0"

/-- IBM code page 850, Latin. -/
def ibm850 : CodePage where
  name := "cp850"
  aliases := ["850", "cspc850multilingual", "ibm850"]
  upper :=
    "ÇüéâäàåçêëèïîìÄÅÉæÆôöòûùÿÖÜø£Ø×ƒáíóúñÑªº¿®¬½¼¡«»░▒▓│┤ÁÂÀ©╣║╗╝¢¥┐└┴┬├─┼ãÃ╚╔╩╦╠═╬¤ðÐÊË" ++
      "ÈıÍÎÏ┘┌█▄¦Ì▀ÓßÔÒõÕµþÞÚÛÙýÝ¯´\u00ad±‗¾¶§÷¸°¨·¹³²■\u00a0"

/-- Windows code page 1250, Central European. -/
def windows1250 : CodePage where
  name := "cp1250"
  aliases := ["1250", "windows_1250"]
  upper :=
    "€\ufffd‚\ufffd„…†‡\ufffd‰Š‹ŚŤŽŹ\ufffd‘’“”•–—\ufffd™š›śťžź\u00a0ˇ˘Ł¤Ą¦§¨©Ş«¬\u00ad®Ż°" ++
      "±˛ł´µ¶·¸ąş»Ľ˝ľżŔÁÂĂÄĹĆÇČÉĘËĚÍÎĎĐŃŇÓÔŐÖ×ŘŮÚŰÜÝŢßŕáâăäĺćçčéęëěíîďđńňóôőö÷řůúűüýţ˙"

/-- Windows code page 1251, Cyrillic. -/
def windows1251 : CodePage where
  name := "cp1251"
  aliases := ["1251", "windows_1251"]
  upper :=
    "ЂЃ‚ѓ„…†‡€‰Љ‹ЊЌЋЏђ‘’“”•–—\ufffd™љ›њќћџ\u00a0ЎўЈ¤Ґ¦§Ё©Є«¬\u00ad®Ї°±Ііґµ¶·ё№є»јЅѕїАБВГД" ++
      "ЕЖЗИЙКЛМНОПРСТУФХЦЧШЩЪЫЬЭЮЯабвгдежзийклмнопрстуфхцчшщъыьэюя"

/-- Windows code page 1252, Western European. -/
def windows1252 : CodePage where
  name := "cp1252"
  aliases := ["1252", "windows_1252"]
  upper :=
    "€\ufffd‚ƒ„…†‡ˆ‰Š‹Œ\ufffdŽ\ufffd\ufffd‘’“”•–—˜™š›œ\ufffdžŸ\u00a0¡¢£¤¥¦§¨©ª«¬\u00ad®¯°" ++
      "±²³´µ¶·¸¹º»¼½¾¿ÀÁÂÃÄÅÆÇÈÉÊËÌÍÎÏÐÑÒÓÔÕÖ×ØÙÚÛÜÝÞßàáâãäåæçèéêëìíîïðñòóôõö÷øùúûüýþÿ"

/-- Windows code page 1254, Turkish. -/
def windows1254 : CodePage where
  name := "cp1254"
  aliases := ["1254", "windows_1254"]
  upper :=
    "€\ufffd‚ƒ„…†‡ˆ‰Š‹Œ\ufffd\ufffd\ufffd\ufffd‘’“”•–—˜™š›œ\ufffd\ufffdŸ\u00a0¡¢£¤¥¦§¨©ª«" ++
      "¬\u00ad®¯°±²³´µ¶·¸¹º»¼½¾¿ÀÁÂÃÄÅÆÇÈÉÊËÌÍÎÏĞÑÒÓÔÕÖ×ØÙÚÛÜİŞßàáâãäåæçèéêëìíîïğñòóôõö÷øùú" ++
      "ûüışÿ"

/-- ISO 8859-2, Central European. -/
def iso8859Part2 : CodePage where
  name := "iso8859_2"
  aliases := ["csisolatin2", "iso_8859_2", "iso_8859_2_1987", "iso_ir_101", "l2", "latin2"]
  upper :=
    "\u00a0Ą˘Ł¤ĽŚ§¨ŠŞŤŹ\u00adŽŻ°ą˛ł´ľśˇ¸šşťź˝žżŔÁÂĂÄĹĆÇČÉĘËĚÍÎĎĐŃŇÓÔŐÖ×ŘŮÚŰÜÝŢßŕáâăäĺćçčé" ++
      "ęëěíîďđńňóôőö÷řůúűüýţ˙"

/-- ISO 8859-5, Cyrillic. -/
def iso8859Part5 : CodePage where
  name := "iso8859_5"
  aliases := ["csisolatincyrillic", "cyrillic", "iso_8859_5", "iso_8859_5_1988", "iso_ir_144"]
  upper :=
    "\u00a0ЁЂЃЄЅІЇЈЉЊЋЌ\u00adЎЏАБВГДЕЖЗИЙКЛМНОПРСТУФХЦЧШЩЪЫЬЭЮЯабвгдежзийклмнопрстуфхцчшщ" ++
      "ъыьэюя№ёђѓєѕіїјљњћќ§ўџ"

/-- ISO 8859-7, Greek. -/
def iso8859Part7 : CodePage where
  name := "iso8859_7"
  aliases := ["csisolatingreek", "ecma_118", "elot_928", "greek", "greek8", "iso_8859_7",
    "iso_8859_7_1987", "iso_ir_126"]
  upper :=
    "\u00a0‘’£€₯¦§¨©ͺ«¬\u00ad\ufffd―°±²³΄΅Ά·ΈΉΊ»Ό½ΎΏΐΑΒΓΔΕΖΗΘΙΚΛΜΝΞΟΠΡ\ufffdΣΤΥΦΧΨΩΪΫάέήί" ++
      "ΰαβγδεζηθικλμνξοπρςστυφχψωϊϋόύώ\ufffd"

/-- ISO 8859-9, Turkish. -/
def iso8859Part9 : CodePage where
  name := "iso8859_9"
  aliases := ["csisolatin5", "iso_8859_9", "iso_8859_9_1989", "iso_ir_148", "l5", "latin5"]
  upper :=
    "\u00a0¡¢£¤¥¦§¨©ª«¬\u00ad®¯°±²³´µ¶·¸¹º»¼½¾¿ÀÁÂÃÄÅÆÇÈÉÊËÌÍÎÏĞÑÒÓÔÕÖ×ØÙÚÛÜİŞßàáâãäåæçèé" ++
      "êëìíîïğñòóôõö÷øùúûüışÿ"

/-- ISO 8859-15, Western European with the euro sign. -/
def iso8859Part15 : CodePage where
  name := "iso8859_15"
  aliases := ["iso_8859_15", "l9", "latin9"]
  upper :=
    "\u00a0¡¢£€¥Š§š©ª«¬\u00ad®¯°±²³Žµ¶·ž¹º»ŒœŸ¿ÀÁÂÃÄÅÆÇÈÉÊËÌÍÎÏÐÑÒÓÔÕÖ×ØÙÚÛÜÝÞßàáâãäåæçèé" ++
      "êëìíîïðñòóôõö÷øùúûüýþÿ"

/-- KOI8-R, Russian. -/
def koi8Russian : CodePage where
  name := "koi8_r"
  aliases := ["cskoi8r"]
  upper :=
    "─│┌┐└┘├┤┬┴┼▀▄█▌▐░▒▓⌠■∙√≈≤≥\u00a0⌡°²·÷═║╒ё╓╔╕╖╗╘╙╚╛╜╝╞╟╠╡Ё╢╣╤╥╦╧╨╩╪╫╬©юабцдефгхийклмн" ++
      "опярстужвьызшэщчъЮАБЦДЕФГХИЙКЛМНОПЯРСТУЖВЬЫЗШЭЩЧЪ"

/-- KOI8-U, Ukrainian. -/
def koi8Ukrainian : CodePage where
  name := "koi8_u"
  aliases := []
  upper :=
    "─│┌┐└┘├┤┬┴┼▀▄█▌▐░▒▓⌠■∙√≈≤≥\u00a0⌡°²·÷═║╒ёє╔ії╗╘╙╚╛ґ╝╞╟╠╡ЁЄ╣ІЇ╦╧╨╩╪Ґ╬©юабцдефгхийклмн" ++
      "опярстужвьызшэщчъЮАБЦДЕФГХИЙКЛМНОПЯРСТУЖВЬЫЗШЭЩЧЪ"

/-- The code pages that are known. -/
def all : List CodePage :=
  [ibm437, ibm850, windows1250, windows1251, windows1252, windows1254, iso8859Part2,
    iso8859Part5, iso8859Part7, iso8859Part9, iso8859Part15, koi8Russian, koi8Ukrainian]

end CodePage

end ArtifactAudit
