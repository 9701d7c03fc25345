import StyleLift.Text.CodePoint

/-! # The style script

What a page is asked to evaluate. With a selector it gives the computed style of the element and
then its inline style; without one, the text of every rule in a style sheet that can be read.
-/
namespace StyleLift.Capture

def styleScriptLines : List String := [
  "",
  "(selector) => \x7b",
  "  const extractStyles = (element) => \x7b",
  "    const styles = [];",
  "    const computed = window.getComputedStyle(element);",
  "    const lines = [];",
  "    for (let i = 0; i < computed.length; i++) \x7b",
  "      const prop = computed[i];",
  "      lines.push(`$\x7bprop\x7d: $\x7bcomputed.getPropertyValue(prop)\x7d;`);",
  "    \x7d",
  "    styles.push(lines.join(\"\\n\"));",
  "    if (element.hasAttribute(\"style\")) \x7b",
  "      styles.push(element.getAttribute(\"style\") || \"\");",
  "    \x7d",
  "    return styles.join(\"\\n\");",
  "  \x7d;",
  "",
  "  if (selector) \x7b",
  "    const element = document.querySelector(selector);",
  "    return element ? extractStyles(element) : \"\";",
  "  \x7d",
  "",
  "  const cssRules = [];",
  "  for (const sheet of Array.from(document.styleSheets)) \x7b",
  "    try \x7b",
  "      for (const rule of Array.from(sheet.cssRules)) \x7b",
  "        cssRules.push(rule.cssText);",
  "      \x7d",
  "    \x7d catch (e) \x7b",
  "      // cross-origin stylesheet",
  "    \x7d",
  "  \x7d",
  "  return cssRules.join(\"\\n\");",
  "\x7d",
  ""]

def styleScript : Text := Text.joinWith [.char '\n'] (styleScriptLines.map Text.ofString)

end StyleLift.Capture
