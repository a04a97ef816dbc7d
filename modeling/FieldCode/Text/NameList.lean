/-!
# The list of the names of characters

The names of characters as the Unicode standard lists them, version 14.0, block by block, except for
those that follow from the number of the character.  In a block the names stand in the order of the
code points, divided by commas, and nothing stands for a code point without a name; a line break and
blanks in front of a name do not count.  A name that begins with the same words as the one before it
has a small letter in their place: `a` stands for one word, `b` for two, and so on.
-/

namespace FieldCode.Text

/-- The blocks of names, each with its first code point. -/
def nameBlocks : List (Nat × String) :=
  [(0x20, "SPACE,EXCLAMATION MARK,QUOTATION MARK,NUMBER SIGN,DOLLAR SIGN,PERCENT SIGN,AMPERSAND,
     APOSTROPHE,LEFT PARENTHESIS,RIGHT PARENTHESIS,ASTERISK,PLUS SIGN,COMMA,HYPHEN-MINUS,FULL STOP,
     SOLIDUS,DIGIT ZERO,aONE,aTWO,aTHREE,aFOUR,aFIVE,aSIX,aSEVEN,aEIGHT,aNINE,COLON,SEMICOLON,
     LESS-THAN SIGN,EQUALS SIGN,GREATER-THAN SIGN,QUESTION MARK,COMMERCIAL AT,
     LATIN CAPITAL LETTER A,cB,cC,cD,cE,cF,cG,cH,cI,cJ,cK,cL,cM,cN,cO,cP,cQ,cR,cS,cT,cU,cV,cW,cX,cY,
     cZ,LEFT SQUARE BRACKET,REVERSE SOLIDUS,RIGHT SQUARE BRACKET,CIRCUMFLEX ACCENT,LOW LINE,
     GRAVE ACCENT,LATIN SMALL LETTER A,cB,cC,cD,cE,cF,cG,cH,cI,cJ,cK,cL,cM,cN,cO,cP,cQ,cR,cS,cT,cU,
     cV,cW,cX,cY,cZ,LEFT CURLY BRACKET,VERTICAL LINE,RIGHT CURLY BRACKET,TILDE"),
   (0xa0, "NO-BREAK SPACE,INVERTED EXCLAMATION MARK,CENT SIGN,POUND SIGN,CURRENCY SIGN,YEN SIGN,
     BROKEN BAR,SECTION SIGN,DIAERESIS,COPYRIGHT SIGN,FEMININE ORDINAL INDICATOR,
     LEFT-POINTING DOUBLE ANGLE QUOTATION MARK,NOT SIGN,SOFT HYPHEN,REGISTERED SIGN,MACRON,
     DEGREE SIGN,PLUS-MINUS SIGN,SUPERSCRIPT TWO,aTHREE,ACUTE ACCENT,MICRO SIGN,PILCROW SIGN,
     MIDDLE DOT,CEDILLA,SUPERSCRIPT ONE,MASCULINE ORDINAL INDICATOR,
     RIGHT-POINTING DOUBLE ANGLE QUOTATION MARK,VULGAR FRACTION ONE QUARTER,cHALF,bTHREE QUARTERS,
     INVERTED QUESTION MARK,LATIN CAPITAL LETTER A WITH GRAVE,eACUTE,eCIRCUMFLEX,eTILDE,eDIAERESIS,
     eRING ABOVE,cAE,cC WITH CEDILLA,cE WITH GRAVE,eACUTE,eCIRCUMFLEX,eDIAERESIS,cI WITH GRAVE,
     eACUTE,eCIRCUMFLEX,eDIAERESIS,cETH,cN WITH TILDE,cO WITH GRAVE,eACUTE,eCIRCUMFLEX,eTILDE,
     eDIAERESIS,MULTIPLICATION SIGN,LATIN CAPITAL LETTER O WITH STROKE,cU WITH GRAVE,eACUTE,
     eCIRCUMFLEX,eDIAERESIS,cY WITH ACUTE,cTHORN,aSMALL LETTER SHARP S,cA WITH GRAVE,eACUTE,
     eCIRCUMFLEX,eTILDE,eDIAERESIS,eRING ABOVE,cAE,cC WITH CEDILLA,cE WITH GRAVE,eACUTE,eCIRCUMFLEX,
     eDIAERESIS,cI WITH GRAVE,eACUTE,eCIRCUMFLEX,eDIAERESIS,cETH,cN WITH TILDE,cO WITH GRAVE,eACUTE,
     eCIRCUMFLEX,eTILDE,eDIAERESIS,DIVISION SIGN,LATIN SMALL LETTER O WITH STROKE,cU WITH GRAVE,
     eACUTE,eCIRCUMFLEX,eDIAERESIS,cY WITH ACUTE,cTHORN,cY WITH DIAERESIS,
     aCAPITAL LETTER A WITH MACRON,aSMALL LETTER A WITH MACRON,aCAPITAL LETTER A WITH BREVE,
     aSMALL LETTER A WITH BREVE,aCAPITAL LETTER A WITH OGONEK,aSMALL LETTER A WITH OGONEK,
     aCAPITAL LETTER C WITH ACUTE,aSMALL LETTER C WITH ACUTE,aCAPITAL LETTER C WITH CIRCUMFLEX,
     aSMALL LETTER C WITH CIRCUMFLEX,aCAPITAL LETTER C WITH DOT ABOVE,
     aSMALL LETTER C WITH DOT ABOVE,aCAPITAL LETTER C WITH CARON,aSMALL LETTER C WITH CARON,
     aCAPITAL LETTER D WITH CARON,aSMALL LETTER D WITH CARON,aCAPITAL LETTER D WITH STROKE,
     aSMALL LETTER D WITH STROKE,aCAPITAL LETTER E WITH MACRON,aSMALL LETTER E WITH MACRON,
     aCAPITAL LETTER E WITH BREVE,aSMALL LETTER E WITH BREVE,aCAPITAL LETTER E WITH DOT ABOVE,
     aSMALL LETTER E WITH DOT ABOVE,aCAPITAL LETTER E WITH OGONEK,aSMALL LETTER E WITH OGONEK,
     aCAPITAL LETTER E WITH CARON,aSMALL LETTER E WITH CARON,aCAPITAL LETTER G WITH CIRCUMFLEX,
     aSMALL LETTER G WITH CIRCUMFLEX,aCAPITAL LETTER G WITH BREVE,aSMALL LETTER G WITH BREVE,
     aCAPITAL LETTER G WITH DOT ABOVE,aSMALL LETTER G WITH DOT ABOVE,aCAPITAL LETTER G WITH CEDILLA,
     aSMALL LETTER G WITH CEDILLA,aCAPITAL LETTER H WITH CIRCUMFLEX,aSMALL LETTER H WITH CIRCUMFLEX,
     aCAPITAL LETTER H WITH STROKE,aSMALL LETTER H WITH STROKE,aCAPITAL LETTER I WITH TILDE,
     aSMALL LETTER I WITH TILDE,aCAPITAL LETTER I WITH MACRON,aSMALL LETTER I WITH MACRON,
     aCAPITAL LETTER I WITH BREVE,aSMALL LETTER I WITH BREVE,aCAPITAL LETTER I WITH OGONEK,
     aSMALL LETTER I WITH OGONEK,aCAPITAL LETTER I WITH DOT ABOVE,aSMALL LETTER DOTLESS I,
     aCAPITAL LIGATURE IJ,aSMALL LIGATURE IJ,aCAPITAL LETTER J WITH CIRCUMFLEX,
     aSMALL LETTER J WITH CIRCUMFLEX,aCAPITAL LETTER K WITH CEDILLA,aSMALL LETTER K WITH CEDILLA,
     cKRA,aCAPITAL LETTER L WITH ACUTE,aSMALL LETTER L WITH ACUTE,aCAPITAL LETTER L WITH CEDILLA,
     aSMALL LETTER L WITH CEDILLA,aCAPITAL LETTER L WITH CARON,aSMALL LETTER L WITH CARON,
     aCAPITAL LETTER L WITH MIDDLE DOT,aSMALL LETTER L WITH MIDDLE DOT,
     aCAPITAL LETTER L WITH STROKE,aSMALL LETTER L WITH STROKE,aCAPITAL LETTER N WITH ACUTE,
     aSMALL LETTER N WITH ACUTE,aCAPITAL LETTER N WITH CEDILLA,aSMALL LETTER N WITH CEDILLA,
     aCAPITAL LETTER N WITH CARON,aSMALL LETTER N WITH CARON,dPRECEDED BY APOSTROPHE,
     aCAPITAL LETTER ENG,aSMALL LETTER ENG,aCAPITAL LETTER O WITH MACRON,
     aSMALL LETTER O WITH MACRON,aCAPITAL LETTER O WITH BREVE,aSMALL LETTER O WITH BREVE,
     aCAPITAL LETTER O WITH DOUBLE ACUTE,aSMALL LETTER O WITH DOUBLE ACUTE,aCAPITAL LIGATURE OE,
     aSMALL LIGATURE OE,aCAPITAL LETTER R WITH ACUTE,aSMALL LETTER R WITH ACUTE,
     aCAPITAL LETTER R WITH CEDILLA,aSMALL LETTER R WITH CEDILLA,aCAPITAL LETTER R WITH CARON,
     aSMALL LETTER R WITH CARON,aCAPITAL LETTER S WITH ACUTE,aSMALL LETTER S WITH ACUTE,
     aCAPITAL LETTER S WITH CIRCUMFLEX,aSMALL LETTER S WITH CIRCUMFLEX,
     aCAPITAL LETTER S WITH CEDILLA,aSMALL LETTER S WITH CEDILLA,aCAPITAL LETTER S WITH CARON,
     aSMALL LETTER S WITH CARON,aCAPITAL LETTER T WITH CEDILLA,aSMALL LETTER T WITH CEDILLA,
     aCAPITAL LETTER T WITH CARON,aSMALL LETTER T WITH CARON,aCAPITAL LETTER T WITH STROKE,
     aSMALL LETTER T WITH STROKE,aCAPITAL LETTER U WITH TILDE,aSMALL LETTER U WITH TILDE,
     aCAPITAL LETTER U WITH MACRON,aSMALL LETTER U WITH MACRON,aCAPITAL LETTER U WITH BREVE,
     aSMALL LETTER U WITH BREVE,aCAPITAL LETTER U WITH RING ABOVE,aSMALL LETTER U WITH RING ABOVE,
     aCAPITAL LETTER U WITH DOUBLE ACUTE,aSMALL LETTER U WITH DOUBLE ACUTE,
     aCAPITAL LETTER U WITH OGONEK,aSMALL LETTER U WITH OGONEK,aCAPITAL LETTER W WITH CIRCUMFLEX,
     aSMALL LETTER W WITH CIRCUMFLEX,aCAPITAL LETTER Y WITH CIRCUMFLEX,
     aSMALL LETTER Y WITH CIRCUMFLEX,aCAPITAL LETTER Y WITH DIAERESIS,cZ WITH ACUTE,
     aSMALL LETTER Z WITH ACUTE,aCAPITAL LETTER Z WITH DOT ABOVE,aSMALL LETTER Z WITH DOT ABOVE,
     aCAPITAL LETTER Z WITH CARON,aSMALL LETTER Z WITH CARON,cLONG S,cB WITH STROKE,
     aCAPITAL LETTER B WITH HOOK,eTOPBAR,aSMALL LETTER B WITH TOPBAR,aCAPITAL LETTER TONE SIX,
     aSMALL LETTER TONE SIX,aCAPITAL LETTER OPEN O,cC WITH HOOK,aSMALL LETTER C WITH HOOK,
     aCAPITAL LETTER AFRICAN D,cD WITH HOOK,eTOPBAR,aSMALL LETTER D WITH TOPBAR,cTURNED DELTA,
     aCAPITAL LETTER REVERSED E,cSCHWA,cOPEN E,cF WITH HOOK,aSMALL LETTER F WITH HOOK,
     aCAPITAL LETTER G WITH HOOK,cGAMMA,aSMALL LETTER HV,aCAPITAL LETTER IOTA,cI WITH STROKE,
     cK WITH HOOK,aSMALL LETTER K WITH HOOK,cL WITH BAR,cLAMBDA WITH STROKE,
     aCAPITAL LETTER TURNED M,cN WITH LEFT HOOK,aSMALL LETTER N WITH LONG RIGHT LEG,
     aCAPITAL LETTER O WITH MIDDLE TILDE,eHORN,aSMALL LETTER O WITH HORN,aCAPITAL LETTER OI,
     aSMALL LETTER OI,aCAPITAL LETTER P WITH HOOK,aSMALL LETTER P WITH HOOK,aLETTER YR,
     aCAPITAL LETTER TONE TWO,aSMALL LETTER TONE TWO,aCAPITAL LETTER ESH,aLETTER REVERSED ESH LOOP,
     aSMALL LETTER T WITH PALATAL HOOK,aCAPITAL LETTER T WITH HOOK,aSMALL LETTER T WITH HOOK,
     aCAPITAL LETTER T WITH RETROFLEX HOOK,cU WITH HORN,aSMALL LETTER U WITH HORN,
     aCAPITAL LETTER UPSILON,cV WITH HOOK,cY WITH HOOK,aSMALL LETTER Y WITH HOOK,
     aCAPITAL LETTER Z WITH STROKE,aSMALL LETTER Z WITH STROKE,aCAPITAL LETTER EZH,dREVERSED,
     aSMALL LETTER EZH REVERSED,dWITH TAIL,aLETTER TWO WITH STROKE,aCAPITAL LETTER TONE FIVE,
     aSMALL LETTER TONE FIVE,aLETTER INVERTED GLOTTAL STOP WITH STROKE,bWYNN,bDENTAL CLICK,
     bLATERAL CLICK,bALVEOLAR CLICK,bRETROFLEX CLICK,aCAPITAL LETTER DZ WITH CARON,
     cD WITH SMALL LETTER Z WITH CARON,aSMALL LETTER DZ WITH CARON,aCAPITAL LETTER LJ,
     cL WITH SMALL LETTER J,aSMALL LETTER LJ,aCAPITAL LETTER NJ,cN WITH SMALL LETTER J,
     aSMALL LETTER NJ,aCAPITAL LETTER A WITH CARON,aSMALL LETTER A WITH CARON,
     aCAPITAL LETTER I WITH CARON,aSMALL LETTER I WITH CARON,aCAPITAL LETTER O WITH CARON,
     aSMALL LETTER O WITH CARON,aCAPITAL LETTER U WITH CARON,aSMALL LETTER U WITH CARON,
     aCAPITAL LETTER U WITH DIAERESIS AND MACRON,aSMALL LETTER U WITH DIAERESIS AND MACRON,
     aCAPITAL LETTER U WITH DIAERESIS AND ACUTE,aSMALL LETTER U WITH DIAERESIS AND ACUTE,
     aCAPITAL LETTER U WITH DIAERESIS AND CARON,aSMALL LETTER U WITH DIAERESIS AND CARON,
     aCAPITAL LETTER U WITH DIAERESIS AND GRAVE,aSMALL LETTER U WITH DIAERESIS AND GRAVE,cTURNED E,
     aCAPITAL LETTER A WITH DIAERESIS AND MACRON,aSMALL LETTER A WITH DIAERESIS AND MACRON,
     aCAPITAL LETTER A WITH DOT ABOVE AND MACRON,aSMALL LETTER A WITH DOT ABOVE AND MACRON,
     aCAPITAL LETTER AE WITH MACRON,aSMALL LETTER AE WITH MACRON,aCAPITAL LETTER G WITH STROKE,
     aSMALL LETTER G WITH STROKE,aCAPITAL LETTER G WITH CARON,aSMALL LETTER G WITH CARON,
     aCAPITAL LETTER K WITH CARON,aSMALL LETTER K WITH CARON,aCAPITAL LETTER O WITH OGONEK,
     aSMALL LETTER O WITH OGONEK,aCAPITAL LETTER O WITH OGONEK AND MACRON,
     aSMALL LETTER O WITH OGONEK AND MACRON,aCAPITAL LETTER EZH WITH CARON,
     aSMALL LETTER EZH WITH CARON,cJ WITH CARON,aCAPITAL LETTER DZ,cD WITH SMALL LETTER Z,
     aSMALL LETTER DZ,aCAPITAL LETTER G WITH ACUTE,aSMALL LETTER G WITH ACUTE,aCAPITAL LETTER HWAIR,
     cWYNN,cN WITH GRAVE,aSMALL LETTER N WITH GRAVE,aCAPITAL LETTER A WITH RING ABOVE AND ACUTE,
     aSMALL LETTER A WITH RING ABOVE AND ACUTE,aCAPITAL LETTER AE WITH ACUTE,
     aSMALL LETTER AE WITH ACUTE,aCAPITAL LETTER O WITH STROKE AND ACUTE,
     aSMALL LETTER O WITH STROKE AND ACUTE,aCAPITAL LETTER A WITH DOUBLE GRAVE,
     aSMALL LETTER A WITH DOUBLE GRAVE,aCAPITAL LETTER A WITH INVERTED BREVE,
     aSMALL LETTER A WITH INVERTED BREVE,aCAPITAL LETTER E WITH DOUBLE GRAVE,
     aSMALL LETTER E WITH DOUBLE GRAVE,aCAPITAL LETTER E WITH INVERTED BREVE,
     aSMALL LETTER E WITH INVERTED BREVE,aCAPITAL LETTER I WITH DOUBLE GRAVE,
     aSMALL LETTER I WITH DOUBLE GRAVE,aCAPITAL LETTER I WITH INVERTED BREVE,
     aSMALL LETTER I WITH INVERTED BREVE,aCAPITAL LETTER O WITH DOUBLE GRAVE,
     aSMALL LETTER O WITH DOUBLE GRAVE,aCAPITAL LETTER O WITH INVERTED BREVE,
     aSMALL LETTER O WITH INVERTED BREVE,aCAPITAL LETTER R WITH DOUBLE GRAVE,
     aSMALL LETTER R WITH DOUBLE GRAVE,aCAPITAL LETTER R WITH INVERTED BREVE,
     aSMALL LETTER R WITH INVERTED BREVE,aCAPITAL LETTER U WITH DOUBLE GRAVE,
     aSMALL LETTER U WITH DOUBLE GRAVE,aCAPITAL LETTER U WITH INVERTED BREVE,
     aSMALL LETTER U WITH INVERTED BREVE,aCAPITAL LETTER S WITH COMMA BELOW,
     aSMALL LETTER S WITH COMMA BELOW,aCAPITAL LETTER T WITH COMMA BELOW,
     aSMALL LETTER T WITH COMMA BELOW,aCAPITAL LETTER YOGH,aSMALL LETTER YOGH,
     aCAPITAL LETTER H WITH CARON,aSMALL LETTER H WITH CARON,aCAPITAL LETTER N WITH LONG RIGHT LEG,
     aSMALL LETTER D WITH CURL,aCAPITAL LETTER OU,aSMALL LETTER OU,aCAPITAL LETTER Z WITH HOOK,
     aSMALL LETTER Z WITH HOOK,aCAPITAL LETTER A WITH DOT ABOVE,aSMALL LETTER A WITH DOT ABOVE,
     aCAPITAL LETTER E WITH CEDILLA,aSMALL LETTER E WITH CEDILLA,
     aCAPITAL LETTER O WITH DIAERESIS AND MACRON,aSMALL LETTER O WITH DIAERESIS AND MACRON,
     aCAPITAL LETTER O WITH TILDE AND MACRON,aSMALL LETTER O WITH TILDE AND MACRON,
     aCAPITAL LETTER O WITH DOT ABOVE,aSMALL LETTER O WITH DOT ABOVE,
     aCAPITAL LETTER O WITH DOT ABOVE AND MACRON,aSMALL LETTER O WITH DOT ABOVE AND MACRON,
     aCAPITAL LETTER Y WITH MACRON,aSMALL LETTER Y WITH MACRON,cL WITH CURL,cN WITH CURL,
     cT WITH CURL,cDOTLESS J,cDB DIGRAPH,cQP DIGRAPH,aCAPITAL LETTER A WITH STROKE,cC WITH STROKE,
     aSMALL LETTER C WITH STROKE,aCAPITAL LETTER L WITH BAR,cT WITH DIAGONAL STROKE,
     aSMALL LETTER S WITH SWASH TAIL,cZ WITH SWASH TAIL,aCAPITAL LETTER GLOTTAL STOP,
     aSMALL LETTER GLOTTAL STOP,aCAPITAL LETTER B WITH STROKE,cU BAR,cTURNED V,cE WITH STROKE,
     aSMALL LETTER E WITH STROKE,aCAPITAL LETTER J WITH STROKE,aSMALL LETTER J WITH STROKE,
     aCAPITAL LETTER SMALL Q WITH HOOK TAIL,aSMALL LETTER Q WITH HOOK TAIL,
     aCAPITAL LETTER R WITH STROKE,aSMALL LETTER R WITH STROKE,aCAPITAL LETTER Y WITH STROKE,
     aSMALL LETTER Y WITH STROKE,cTURNED A,cALPHA,cTURNED ALPHA,cB WITH HOOK,cOPEN O,cC WITH CURL,
     cD WITH TAIL,eHOOK,cREVERSED E,cSCHWA,dWITH HOOK,cOPEN E,cREVERSED OPEN E,fWITH HOOK,
     cCLOSED REVERSED OPEN E,cDOTLESS J WITH STROKE,cG WITH HOOK,cSCRIPT G,aLETTER SMALL CAPITAL G,
     aSMALL LETTER GAMMA,cRAMS HORN,cTURNED H,cH WITH HOOK,cHENG WITH HOOK,cI WITH STROKE,cIOTA,
     aLETTER SMALL CAPITAL I,aSMALL LETTER L WITH MIDDLE TILDE,eBELT,eRETROFLEX HOOK,cLEZH,
     cTURNED M,eWITH LONG LEG,cM WITH HOOK,cN WITH LEFT HOOK,eRETROFLEX HOOK,
     aLETTER SMALL CAPITAL N,aSMALL LETTER BARRED O,aLETTER SMALL CAPITAL OE,
     aSMALL LETTER CLOSED OMEGA,cPHI,cTURNED R,eWITH LONG LEG,fHOOK,cR WITH LONG LEG,eTAIL,
     eFISHHOOK,cREVERSED R WITH FISHHOOK,aLETTER SMALL CAPITAL R,dINVERTED R,
     aSMALL LETTER S WITH HOOK,cESH,cDOTLESS J WITH STROKE AND HOOK,cSQUAT REVERSED ESH,
     cESH WITH CURL,cTURNED T,cT WITH RETROFLEX HOOK,cU BAR,cUPSILON,cV WITH HOOK,cTURNED V,dW,dY,
     aLETTER SMALL CAPITAL Y,aSMALL LETTER Z WITH RETROFLEX HOOK,eCURL,cEZH,dWITH CURL,
     aLETTER GLOTTAL STOP,bPHARYNGEAL VOICED FRICATIVE,bINVERTED GLOTTAL STOP,bSTRETCHED C,
     bBILABIAL CLICK,bSMALL CAPITAL B,aSMALL LETTER CLOSED OPEN E,aLETTER SMALL CAPITAL G WITH HOOK,
     dH,aSMALL LETTER J WITH CROSSED-TAIL,cTURNED K,aLETTER SMALL CAPITAL L,
     aSMALL LETTER Q WITH HOOK,aLETTER GLOTTAL STOP WITH STROKE,bREVERSED GLOTTAL STOP WITH STROKE,
     aSMALL LETTER DZ DIGRAPH,cDEZH DIGRAPH,cDZ DIGRAPH WITH CURL,cTS DIGRAPH,cTESH DIGRAPH,
     cTC DIGRAPH WITH CURL,cFENG DIGRAPH,cLS DIGRAPH,cLZ DIGRAPH,aLETTER BILABIAL PERCUSSIVE,
     bBIDENTAL PERCUSSIVE,aSMALL LETTER TURNED H WITH FISHHOOK,gAND TAIL,MODIFIER LETTER SMALL H,
     dWITH HOOK,cJ,cR,cTURNED R,eWITH HOOK,cCAPITAL INVERTED R,cW,cY,bPRIME,bDOUBLE PRIME,
     bTURNED COMMA,bAPOSTROPHE,bREVERSED COMMA,bRIGHT HALF RING,bLEFT HALF RING,bGLOTTAL STOP,
     bREVERSED GLOTTAL STOP,bLEFT ARROWHEAD,bRIGHT ARROWHEAD,bUP ARROWHEAD,bDOWN ARROWHEAD,
     bCIRCUMFLEX ACCENT,CARON,MODIFIER LETTER VERTICAL LINE,bMACRON,bACUTE ACCENT,bGRAVE ACCENT,
     bLOW VERTICAL LINE,cMACRON,cGRAVE ACCENT,cACUTE ACCENT,bTRIANGULAR COLON,
     bHALF TRIANGULAR COLON,bCENTRED RIGHT HALF RING,cLEFT HALF RING,bUP TACK,bDOWN TACK,bPLUS SIGN,
     bMINUS SIGN,BREVE,DOT ABOVE,RING ABOVE,OGONEK,SMALL TILDE,DOUBLE ACUTE ACCENT,
     MODIFIER LETTER RHOTIC HOOK,bCROSS ACCENT,bSMALL GAMMA,cL,cS,cX,cREVERSED GLOTTAL STOP,
     bEXTRA-HIGH TONE BAR,bHIGH TONE BAR,bMID TONE BAR,bLOW TONE BAR,bEXTRA-LOW TONE BAR,
     bYIN DEPARTING TONE MARK,bYANG DEPARTING TONE MARK,bVOICING,bUNASPIRATED,bDOUBLE APOSTROPHE,
     bLOW DOWN ARROWHEAD,cUP ARROWHEAD,cLEFT ARROWHEAD,cRIGHT ARROWHEAD,cRING,bMIDDLE GRAVE ACCENT,
     cDOUBLE GRAVE ACCENT,dACUTE ACCENT,bLOW TILDE,bRAISED COLON,bBEGIN HIGH TONE,bEND HIGH TONE,
     bBEGIN LOW TONE,bEND LOW TONE,bSHELF,bOPEN SHELF,bLOW LEFT ARROW,COMBINING GRAVE ACCENT,
     aACUTE ACCENT,aCIRCUMFLEX ACCENT,aTILDE,aMACRON,aOVERLINE,aBREVE,aDOT ABOVE,aDIAERESIS,
     aHOOK ABOVE,aRING ABOVE,aDOUBLE ACUTE ACCENT,aCARON,aVERTICAL LINE ABOVE,
     aDOUBLE VERTICAL LINE ABOVE,bGRAVE ACCENT,aCANDRABINDU,aINVERTED BREVE,aTURNED COMMA ABOVE,
     aCOMMA ABOVE,aREVERSED COMMA ABOVE,aCOMMA ABOVE RIGHT,aGRAVE ACCENT BELOW,aACUTE ACCENT BELOW,
     aLEFT TACK BELOW,aRIGHT TACK BELOW,aLEFT ANGLE ABOVE,aHORN,aLEFT HALF RING BELOW,
     aUP TACK BELOW,aDOWN TACK BELOW,aPLUS SIGN BELOW,aMINUS SIGN BELOW,aPALATALIZED HOOK BELOW,
     aRETROFLEX HOOK BELOW,aDOT BELOW,aDIAERESIS BELOW,aRING BELOW,aCOMMA BELOW,aCEDILLA,aOGONEK,
     aVERTICAL LINE BELOW,aBRIDGE BELOW,aINVERTED DOUBLE ARCH BELOW,aCARON BELOW,
     aCIRCUMFLEX ACCENT BELOW,aBREVE BELOW,aINVERTED BREVE BELOW,aTILDE BELOW,aMACRON BELOW,
     aLOW LINE,aDOUBLE LOW LINE,aTILDE OVERLAY,aSHORT STROKE OVERLAY,aLONG STROKE OVERLAY,
     aSHORT SOLIDUS OVERLAY,aLONG SOLIDUS OVERLAY,aRIGHT HALF RING BELOW,aINVERTED BRIDGE BELOW,
     aSQUARE BELOW,aSEAGULL BELOW,aX ABOVE,aVERTICAL TILDE,aDOUBLE OVERLINE,aGRAVE TONE MARK,
     aACUTE TONE MARK,aGREEK PERISPOMENI,bKORONIS,bDIALYTIKA TONOS,bYPOGEGRAMMENI,aBRIDGE ABOVE,
     aEQUALS SIGN BELOW,aDOUBLE VERTICAL LINE BELOW,aLEFT ANGLE BELOW,aNOT TILDE ABOVE,
     aHOMOTHETIC ABOVE,aALMOST EQUAL TO ABOVE,aLEFT RIGHT ARROW BELOW,aUPWARDS ARROW BELOW,
     aGRAPHEME JOINER,aRIGHT ARROWHEAD ABOVE,aLEFT HALF RING ABOVE,aFERMATA,aX BELOW,
     aLEFT ARROWHEAD BELOW,aRIGHT ARROWHEAD BELOW,cAND UP ARROWHEAD BELOW,bHALF RING ABOVE,
     aDOT ABOVE RIGHT,aASTERISK BELOW,aDOUBLE RING BELOW,aZIGZAG ABOVE,aDOUBLE BREVE BELOW,bBREVE,
     bMACRON,cBELOW,bTILDE,bINVERTED BREVE,bRIGHTWARDS ARROW BELOW,aLATIN SMALL LETTER A,dE,dI,dO,
     dU,dC,dD,dH,dM,dR,dT,dV,dX,GREEK CAPITAL LETTER HETA,aSMALL LETTER HETA,
     aCAPITAL LETTER ARCHAIC SAMPI,aSMALL LETTER ARCHAIC SAMPI,aNUMERAL SIGN,aLOWER NUMERAL SIGN,
     aCAPITAL LETTER PAMPHYLIAN DIGAMMA,aSMALL LETTER PAMPHYLIAN DIGAMMA,,,aYPOGEGRAMMENI,
     aSMALL REVERSED LUNATE SIGMA SYMBOL,bDOTTED LUNATE SIGMA SYMBOL,
     bREVERSED DOTTED LUNATE SIGMA SYMBOL,aQUESTION MARK,aCAPITAL LETTER YOT,,,,,aTONOS,
     aDIALYTIKA TONOS,aCAPITAL LETTER ALPHA WITH TONOS,aANO TELEIA,
     aCAPITAL LETTER EPSILON WITH TONOS,cETA WITH TONOS,cIOTA WITH TONOS,,cOMICRON WITH TONOS,,
     cUPSILON WITH TONOS,cOMEGA WITH TONOS,aSMALL LETTER IOTA WITH DIALYTIKA AND TONOS,
     aCAPITAL LETTER ALPHA,cBETA,cGAMMA,cDELTA,cEPSILON,cZETA,cETA,cTHETA,cIOTA,cKAPPA,cLAMDA,cMU,
     cNU,cXI,cOMICRON,cPI,cRHO,,cSIGMA,cTAU,cUPSILON,cPHI,cCHI,cPSI,cOMEGA,cIOTA WITH DIALYTIKA,
     cUPSILON WITH DIALYTIKA,aSMALL LETTER ALPHA WITH TONOS,cEPSILON WITH TONOS,cETA WITH TONOS,
     cIOTA WITH TONOS,cUPSILON WITH DIALYTIKA AND TONOS,cALPHA,cBETA,cGAMMA,cDELTA,cEPSILON,cZETA,
     cETA,cTHETA,cIOTA,cKAPPA,cLAMDA,cMU,cNU,cXI,cOMICRON,cPI,cRHO,cFINAL SIGMA,cSIGMA,cTAU,
     cUPSILON,cPHI,cCHI,cPSI,cOMEGA,cIOTA WITH DIALYTIKA,cUPSILON WITH DIALYTIKA,
     cOMICRON WITH TONOS,cUPSILON WITH TONOS,cOMEGA WITH TONOS,aCAPITAL KAI SYMBOL,aBETA SYMBOL,
     aTHETA SYMBOL,aUPSILON WITH HOOK SYMBOL,cACUTE AND HOOK SYMBOL,cDIAERESIS AND HOOK SYMBOL,
     aPHI SYMBOL,aPI SYMBOL,aKAI SYMBOL,aLETTER ARCHAIC KOPPA,aSMALL LETTER ARCHAIC KOPPA,
     aLETTER STIGMA,aSMALL LETTER STIGMA,aLETTER DIGAMMA,aSMALL LETTER DIGAMMA,aLETTER KOPPA,
     aSMALL LETTER KOPPA,aLETTER SAMPI,aSMALL LETTER SAMPI,COPTIC CAPITAL LETTER SHEI,
     aSMALL LETTER SHEI,aCAPITAL LETTER FEI,aSMALL LETTER FEI,aCAPITAL LETTER KHEI,
     aSMALL LETTER KHEI,aCAPITAL LETTER HORI,aSMALL LETTER HORI,aCAPITAL LETTER GANGIA,
     aSMALL LETTER GANGIA,aCAPITAL LETTER SHIMA,aSMALL LETTER SHIMA,aCAPITAL LETTER DEI,
     aSMALL LETTER DEI,GREEK KAPPA SYMBOL,aRHO SYMBOL,aLUNATE SIGMA SYMBOL,aLETTER YOT,
     aCAPITAL THETA SYMBOL,aLUNATE EPSILON SYMBOL,aREVERSED LUNATE EPSILON SYMBOL,
     aCAPITAL LETTER SHO,aSMALL LETTER SHO,aCAPITAL LUNATE SIGMA SYMBOL,bLETTER SAN,
     aSMALL LETTER SAN,aRHO WITH STROKE SYMBOL,aCAPITAL REVERSED LUNATE SIGMA SYMBOL,
     bDOTTED LUNATE SIGMA SYMBOL,bREVERSED DOTTED LUNATE SIGMA SYMBOL,
     CYRILLIC CAPITAL LETTER IE WITH GRAVE,cIO,cDJE,cGJE,cUKRAINIAN IE,cDZE,
     cBYELORUSSIAN-UKRAINIAN I,cYI,cJE,cLJE,cNJE,cTSHE,cKJE,cI WITH GRAVE,cSHORT U,cDZHE,cA,cBE,cVE,
     cGHE,cDE,cIE,cZHE,cZE,cI,cSHORT I,cKA,cEL,cEM,cEN,cO,cPE,cER,cES,cTE,cU,cEF,cHA,cTSE,cCHE,cSHA,
     cSHCHA,cHARD SIGN,cYERU,cSOFT SIGN,cE,cYU,cYA,aSMALL LETTER A,cBE,cVE,cGHE,cDE,cIE,cZHE,cZE,cI,
     cSHORT I,cKA,cEL,cEM,cEN,cO,cPE,cER,cES,cTE,cU,cEF,cHA,cTSE,cCHE,cSHA,cSHCHA,cHARD SIGN,cYERU,
     cSOFT SIGN,cE,cYU,cYA,cIE WITH GRAVE,cIO,cDJE,cGJE,cUKRAINIAN IE,cDZE,
     cBYELORUSSIAN-UKRAINIAN I,cYI,cJE,cLJE,cNJE,cTSHE,cKJE,cI WITH GRAVE,cSHORT U,cDZHE,
     aCAPITAL LETTER OMEGA,aSMALL LETTER OMEGA,aCAPITAL LETTER YAT,aSMALL LETTER YAT,
     aCAPITAL LETTER IOTIFIED E,aSMALL LETTER IOTIFIED E,aCAPITAL LETTER LITTLE YUS,
     aSMALL LETTER LITTLE YUS,aCAPITAL LETTER IOTIFIED LITTLE YUS,aSMALL LETTER IOTIFIED LITTLE YUS,
     aCAPITAL LETTER BIG YUS,aSMALL LETTER BIG YUS,aCAPITAL LETTER IOTIFIED BIG YUS,
     aSMALL LETTER IOTIFIED BIG YUS,aCAPITAL LETTER KSI,aSMALL LETTER KSI,aCAPITAL LETTER PSI,
     aSMALL LETTER PSI,aCAPITAL LETTER FITA,aSMALL LETTER FITA,aCAPITAL LETTER IZHITSA,
     aSMALL LETTER IZHITSA,aCAPITAL LETTER IZHITSA WITH DOUBLE GRAVE ACCENT,
     aSMALL LETTER IZHITSA WITH DOUBLE GRAVE ACCENT,aCAPITAL LETTER UK,aSMALL LETTER UK,
     aCAPITAL LETTER ROUND OMEGA,aSMALL LETTER ROUND OMEGA,aCAPITAL LETTER OMEGA WITH TITLO,
     aSMALL LETTER OMEGA WITH TITLO,aCAPITAL LETTER OT,aSMALL LETTER OT,aCAPITAL LETTER KOPPA,
     aSMALL LETTER KOPPA,aTHOUSANDS SIGN,COMBINING CYRILLIC TITLO,bPALATALIZATION,bDASIA PNEUMATA,
     bPSILI PNEUMATA,bPOKRYTIE,bHUNDRED THOUSANDS SIGN,bMILLIONS SIGN,
     CYRILLIC CAPITAL LETTER SHORT I WITH TAIL,aSMALL LETTER SHORT I WITH TAIL,
     aCAPITAL LETTER SEMISOFT SIGN,aSMALL LETTER SEMISOFT SIGN,aCAPITAL LETTER ER WITH TICK,
     aSMALL LETTER ER WITH TICK,aCAPITAL LETTER GHE WITH UPTURN,aSMALL LETTER GHE WITH UPTURN,
     aCAPITAL LETTER GHE WITH STROKE,aSMALL LETTER GHE WITH STROKE,
     aCAPITAL LETTER GHE WITH MIDDLE HOOK,aSMALL LETTER GHE WITH MIDDLE HOOK,
     aCAPITAL LETTER ZHE WITH DESCENDER,aSMALL LETTER ZHE WITH DESCENDER,
     aCAPITAL LETTER ZE WITH DESCENDER,aSMALL LETTER ZE WITH DESCENDER,
     aCAPITAL LETTER KA WITH DESCENDER,aSMALL LETTER KA WITH DESCENDER,
     aCAPITAL LETTER KA WITH VERTICAL STROKE,aSMALL LETTER KA WITH VERTICAL STROKE,
     aCAPITAL LETTER KA WITH STROKE,aSMALL LETTER KA WITH STROKE,aCAPITAL LETTER BASHKIR KA,
     aSMALL LETTER BASHKIR KA,aCAPITAL LETTER EN WITH DESCENDER,aSMALL LETTER EN WITH DESCENDER,
     aCAPITAL LIGATURE EN GHE,aSMALL LIGATURE EN GHE,aCAPITAL LETTER PE WITH MIDDLE HOOK,
     aSMALL LETTER PE WITH MIDDLE HOOK,aCAPITAL LETTER ABKHASIAN HA,aSMALL LETTER ABKHASIAN HA,
     aCAPITAL LETTER ES WITH DESCENDER,aSMALL LETTER ES WITH DESCENDER,
     aCAPITAL LETTER TE WITH DESCENDER,aSMALL LETTER TE WITH DESCENDER,aCAPITAL LETTER STRAIGHT U,
     aSMALL LETTER STRAIGHT U,aCAPITAL LETTER STRAIGHT U WITH STROKE,
     aSMALL LETTER STRAIGHT U WITH STROKE,aCAPITAL LETTER HA WITH DESCENDER,
     aSMALL LETTER HA WITH DESCENDER,aCAPITAL LIGATURE TE TSE,aSMALL LIGATURE TE TSE,
     aCAPITAL LETTER CHE WITH DESCENDER,aSMALL LETTER CHE WITH DESCENDER,
     aCAPITAL LETTER CHE WITH VERTICAL STROKE,aSMALL LETTER CHE WITH VERTICAL STROKE,
     aCAPITAL LETTER SHHA,aSMALL LETTER SHHA,aCAPITAL LETTER ABKHASIAN CHE,
     aSMALL LETTER ABKHASIAN CHE,aCAPITAL LETTER ABKHASIAN CHE WITH DESCENDER,
     aSMALL LETTER ABKHASIAN CHE WITH DESCENDER,aLETTER PALOCHKA,aCAPITAL LETTER ZHE WITH BREVE,
     aSMALL LETTER ZHE WITH BREVE,aCAPITAL LETTER KA WITH HOOK,aSMALL LETTER KA WITH HOOK,
     aCAPITAL LETTER EL WITH TAIL,aSMALL LETTER EL WITH TAIL,aCAPITAL LETTER EN WITH HOOK,
     aSMALL LETTER EN WITH HOOK,aCAPITAL LETTER EN WITH TAIL,aSMALL LETTER EN WITH TAIL,
     aCAPITAL LETTER KHAKASSIAN CHE,aSMALL LETTER KHAKASSIAN CHE,aCAPITAL LETTER EM WITH TAIL,
     aSMALL LETTER EM WITH TAIL,cPALOCHKA,aCAPITAL LETTER A WITH BREVE,aSMALL LETTER A WITH BREVE,
     aCAPITAL LETTER A WITH DIAERESIS,aSMALL LETTER A WITH DIAERESIS,aCAPITAL LIGATURE A IE,
     aSMALL LIGATURE A IE,aCAPITAL LETTER IE WITH BREVE,aSMALL LETTER IE WITH BREVE,
     aCAPITAL LETTER SCHWA,aSMALL LETTER SCHWA,aCAPITAL LETTER SCHWA WITH DIAERESIS,
     aSMALL LETTER SCHWA WITH DIAERESIS,aCAPITAL LETTER ZHE WITH DIAERESIS,
     aSMALL LETTER ZHE WITH DIAERESIS,aCAPITAL LETTER ZE WITH DIAERESIS,
     aSMALL LETTER ZE WITH DIAERESIS,aCAPITAL LETTER ABKHASIAN DZE,aSMALL LETTER ABKHASIAN DZE,
     aCAPITAL LETTER I WITH MACRON,aSMALL LETTER I WITH MACRON,aCAPITAL LETTER I WITH DIAERESIS,
     aSMALL LETTER I WITH DIAERESIS,aCAPITAL LETTER O WITH DIAERESIS,aSMALL LETTER O WITH DIAERESIS,
     aCAPITAL LETTER BARRED O,aSMALL LETTER BARRED O,aCAPITAL LETTER BARRED O WITH DIAERESIS,
     aSMALL LETTER BARRED O WITH DIAERESIS,aCAPITAL LETTER E WITH DIAERESIS,
     aSMALL LETTER E WITH DIAERESIS,aCAPITAL LETTER U WITH MACRON,aSMALL LETTER U WITH MACRON,
     aCAPITAL LETTER U WITH DIAERESIS,aSMALL LETTER U WITH DIAERESIS,
     aCAPITAL LETTER U WITH DOUBLE ACUTE,aSMALL LETTER U WITH DOUBLE ACUTE,
     aCAPITAL LETTER CHE WITH DIAERESIS,aSMALL LETTER CHE WITH DIAERESIS,
     aCAPITAL LETTER GHE WITH DESCENDER,aSMALL LETTER GHE WITH DESCENDER,
     aCAPITAL LETTER YERU WITH DIAERESIS,aSMALL LETTER YERU WITH DIAERESIS,
     aCAPITAL LETTER GHE WITH STROKE AND HOOK,aSMALL LETTER GHE WITH STROKE AND HOOK,
     aCAPITAL LETTER HA WITH HOOK,aSMALL LETTER HA WITH HOOK,aCAPITAL LETTER HA WITH STROKE,
     aSMALL LETTER HA WITH STROKE,aCAPITAL LETTER KOMI DE,aSMALL LETTER KOMI DE,
     aCAPITAL LETTER KOMI DJE,aSMALL LETTER KOMI DJE,aCAPITAL LETTER KOMI ZJE,
     aSMALL LETTER KOMI ZJE,aCAPITAL LETTER KOMI DZJE,aSMALL LETTER KOMI DZJE,
     aCAPITAL LETTER KOMI LJE,aSMALL LETTER KOMI LJE,aCAPITAL LETTER KOMI NJE,
     aSMALL LETTER KOMI NJE,aCAPITAL LETTER KOMI SJE,aSMALL LETTER KOMI SJE,
     aCAPITAL LETTER KOMI TJE,aSMALL LETTER KOMI TJE,aCAPITAL LETTER REVERSED ZE,
     aSMALL LETTER REVERSED ZE,aCAPITAL LETTER EL WITH HOOK,aSMALL LETTER EL WITH HOOK,
     aCAPITAL LETTER LHA,aSMALL LETTER LHA,aCAPITAL LETTER RHA,aSMALL LETTER RHA,
     aCAPITAL LETTER YAE,aSMALL LETTER YAE,aCAPITAL LETTER QA,aSMALL LETTER QA,aCAPITAL LETTER WE,
     aSMALL LETTER WE,aCAPITAL LETTER ALEUT KA,aSMALL LETTER ALEUT KA,
     aCAPITAL LETTER EL WITH MIDDLE HOOK,aSMALL LETTER EL WITH MIDDLE HOOK,
     aCAPITAL LETTER EN WITH MIDDLE HOOK,aSMALL LETTER EN WITH MIDDLE HOOK,
     aCAPITAL LETTER PE WITH DESCENDER,aSMALL LETTER PE WITH DESCENDER,
     aCAPITAL LETTER SHHA WITH DESCENDER,aSMALL LETTER SHHA WITH DESCENDER,
     aCAPITAL LETTER EN WITH LEFT HOOK,aSMALL LETTER EN WITH LEFT HOOK,aCAPITAL LETTER DZZHE,
     aSMALL LETTER DZZHE,aCAPITAL LETTER DCHE,aSMALL LETTER DCHE,aCAPITAL LETTER EL WITH DESCENDER,
     aSMALL LETTER EL WITH DESCENDER,,ARMENIAN CAPITAL LETTER AYB,cBEN,cGIM,cDA,cECH,cZA,cEH,cET,
     cTO,cZHE,cINI,cLIWN,cXEH,cCA,cKEN,cHO,cJA,cGHAD,cCHEH,cMEN,cYI,cNOW,cSHA,cVO,cCHA,cPEH,cJHEH,
     cRA,cSEH,cVEW,cTIWN,cREH,cCO,cYIWN,cPIWR,cKEH,cOH,cFEH,,,aMODIFIER LETTER LEFT HALF RING,
     aAPOSTROPHE,aEMPHASIS MARK,aEXCLAMATION MARK,aCOMMA,aQUESTION MARK,aABBREVIATION MARK,
     aSMALL LETTER TURNED AYB,cAYB,cBEN,cGIM,cDA,cECH,cZA,cEH,cET,cTO,cZHE,cINI,cLIWN,cXEH,cCA,cKEN,
     cHO,cJA,cGHAD,cCHEH,cMEN,cYI,cNOW,cSHA,cVO,cCHA,cPEH,cJHEH,cRA,cSEH,cVEW,cTIWN,cREH,cCO,cYIWN,
     cPIWR,cKEH,cOH,cFEH,bLIGATURE ECH YIWN,bLETTER YI WITH STROKE,aFULL STOP,aHYPHEN,,,
     RIGHT-FACING ARMENIAN ETERNITY SIGN,LEFT-FACING ARMENIAN ETERNITY SIGN,ARMENIAN DRAM SIGN,,
     HEBREW ACCENT ETNAHTA,bSEGOL,bSHALSHELET,bZAQEF QATAN,cGADOL,bTIPEHA,bREVIA,bZARQA,bPASHTA,
     bYETIV,bTEVIR,bGERESH,cMUQDAM,bGERSHAYIM,bQARNEY PARA,bTELISHA GEDOLA,bPAZER,bATNAH HAFUKH,
     bMUNAH,bMAHAPAKH,bMERKHA,cKEFULA,bDARGA,bQADMA,bTELISHA QETANA,bYERAH BEN YOMO,bOLE,bILUY,
     bDEHI,bZINOR,aMARK MASORA CIRCLE,aPOINT SHEVA,bHATAF SEGOL,cPATAH,cQAMATS,bHIRIQ,bTSERE,bSEGOL,
     bPATAH,bQAMATS,bHOLAM,cHASER FOR VAV,bQUBUTS,bDAGESH OR MAPIQ,bMETEG,aPUNCTUATION MAQAF,
     aPOINT RAFE,aPUNCTUATION PASEQ,aPOINT SHIN DOT,bSIN DOT,aPUNCTUATION SOF PASUQ,aMARK UPPER DOT,
     bLOWER DOT,aPUNCTUATION NUN HAFUKHA,aPOINT QAMATS QATAN,,,,,,,,,aLETTER ALEF,bBET,bGIMEL,
     bDALET,bHE,bVAV,bZAYIN,bHET,bTET,bYOD,bFINAL KAF,bKAF,bLAMED,bFINAL MEM,bMEM,bFINAL NUN,bNUN,
     bSAMEKH,bAYIN,bFINAL PE,bPE,bFINAL TSADI,bTSADI,bQOF,bRESH,bSHIN,bTAV,,,,,aYOD TRIANGLE,
     aLIGATURE YIDDISH DOUBLE VAV,cVAV YOD,cDOUBLE YOD,aPUNCTUATION GERESH,bGERSHAYIM"),
   (0x600, "ARABIC NUMBER SIGN,aSIGN SANAH,aFOOTNOTE MARKER,aSIGN SAFHA,bSAMVAT,aNUMBER MARK ABOVE,
     ARABIC-INDIC CUBE ROOT,aFOURTH ROOT,ARABIC RAY,ARABIC-INDIC PER MILLE SIGN,bTEN THOUSAND SIGN,
     AFGHANI SIGN,ARABIC COMMA,aDATE SEPARATOR,aPOETIC VERSE SIGN,aSIGN MISRA,
     bSALLALLAHOU ALAYHE WASSALLAM,bALAYHE ASSALLAM,bRAHMATULLAH ALAYHE,bRADI ALLAHOU ANHU,
     bTAKHALLUS,aSMALL HIGH TAH,cLIGATURE ALEF WITH LAM WITH YEH,cZAIN,bFATHA,bDAMMA,bKASRA,
     aSEMICOLON,aLETTER MARK,aEND OF TEXT MARK,aTRIPLE DOT PUNCTUATION MARK,aQUESTION MARK,
     aLETTER KASHMIRI YEH,bHAMZA,bALEF WITH MADDA ABOVE,dHAMZA ABOVE,bWAW WITH HAMZA ABOVE,
     bALEF WITH HAMZA BELOW,bYEH WITH HAMZA ABOVE,bALEF,bBEH,bTEH MARBUTA,bTEH,bTHEH,bJEEM,bHAH,
     bKHAH,bDAL,bTHAL,bREH,bZAIN,bSEEN,bSHEEN,bSAD,bDAD,bTAH,bZAH,bAIN,bGHAIN,
     bKEHEH WITH TWO DOTS ABOVE,dTHREE DOTS BELOW,bFARSI YEH WITH INVERTED V,eTWO DOTS ABOVE,
     eTHREE DOTS ABOVE,aTATWEEL,aLETTER FEH,bQAF,bKAF,bLAM,bMEEM,bNOON,bHEH,bWAW,bALEF MAKSURA,bYEH,
     aFATHATAN,aDAMMATAN,aKASRATAN,aFATHA,aDAMMA,aKASRA,aSHADDA,aSUKUN,aMADDAH ABOVE,aHAMZA ABOVE,
     bBELOW,aSUBSCRIPT ALEF,aINVERTED DAMMA,aMARK NOON GHUNNA,aZWARAKAY,aVOWEL SIGN SMALL V ABOVE,
     cINVERTED SMALL V ABOVE,cDOT BELOW,aREVERSED DAMMA,aFATHA WITH TWO DOTS,aWAVY HAMZA BELOW,
     ARABIC-INDIC DIGIT ZERO,bONE,bTWO,bTHREE,bFOUR,bFIVE,bSIX,bSEVEN,bEIGHT,bNINE,
     ARABIC PERCENT SIGN,aDECIMAL SEPARATOR,aTHOUSANDS SEPARATOR,aFIVE POINTED STAR,
     aLETTER DOTLESS BEH,cQAF,bSUPERSCRIPT ALEF,bALEF WASLA,cWITH WAVY HAMZA ABOVE,fBELOW,
     bHIGH HAMZA,dALEF,dWAW,bU WITH HAMZA ABOVE,bHIGH HAMZA YEH,bTTEH,bTTEHEH,bBEEH,bTEH WITH RING,
     dTHREE DOTS ABOVE DOWNWARDS,bPEH,bTEHEH,bBEHEH,bHAH WITH HAMZA ABOVE,dTWO DOTS VERTICAL ABOVE,
     bNYEH,bDYEH,bHAH WITH THREE DOTS ABOVE,bTCHEH,bTCHEHEH,bDDAL,bDAL WITH RING,dDOT BELOW,
     fAND SMALL TAH,bDAHAL,bDDAHAL,bDUL,bDAL WITH THREE DOTS ABOVE DOWNWARDS,dFOUR DOTS ABOVE,bRREH,
     bREH WITH SMALL V,dRING,dDOT BELOW,dSMALL V BELOW,dDOT BELOW AND DOT ABOVE,dTWO DOTS ABOVE,
     bJEH,bREH WITH FOUR DOTS ABOVE,bSEEN WITH DOT BELOW AND DOT ABOVE,dTHREE DOTS BELOW,
     gAND THREE DOTS ABOVE,bSAD WITH TWO DOTS BELOW,dTHREE DOTS ABOVE,bTAH WITH THREE DOTS ABOVE,
     bAIN WITH THREE DOTS ABOVE,bDOTLESS FEH,bFEH WITH DOT MOVED BELOW,eBELOW,bVEH,
     bFEH WITH THREE DOTS BELOW,bPEHEH,bQAF WITH DOT ABOVE,dTHREE DOTS ABOVE,bKEHEH,bSWASH KAF,
     bKAF WITH RING,dDOT ABOVE,bNG,bKAF WITH THREE DOTS BELOW,bGAF,cWITH RING,bNGOEH,
     bGAF WITH TWO DOTS BELOW,bGUEH,bGAF WITH THREE DOTS ABOVE,bLAM WITH SMALL V,dDOT ABOVE,
     dTHREE DOTS ABOVE,fBELOW,bNOON WITH DOT BELOW,cGHUNNA,bRNOON,bNOON WITH RING,dTHREE DOTS ABOVE,
     bHEH DOACHASHMEE,bTCHEH WITH DOT ABOVE,bHEH WITH YEH ABOVE,cGOAL,dWITH HAMZA ABOVE,
     bTEH MARBUTA GOAL,bWAW WITH RING,bKIRGHIZ OE,bOE,bU,bYU,bKIRGHIZ YU,bWAW WITH TWO DOTS ABOVE,
     bVE,bFARSI YEH,bYEH WITH TAIL,dSMALL V,bWAW WITH DOT ABOVE,bE,bYEH WITH THREE DOTS BELOW,
     cBARREE,dWITH HAMZA ABOVE,aFULL STOP,aLETTER AE,
     aSMALL HIGH LIGATURE SAD WITH LAM WITH ALEF MAKSURA,dQAF WITH LAM WITH ALEF MAKSURA,
     cMEEM INITIAL FORM,cLAM ALEF,cJEEM,cTHREE DOTS,cSEEN,aEND OF AYAH,aSTART OF RUB EL HIZB,
     aSMALL HIGH ROUNDED ZERO,cUPRIGHT RECTANGULAR ZERO,cDOTLESS HEAD OF KHAH,cMEEM ISOLATED FORM,
     bLOW SEEN,bHIGH MADDA,bWAW,bYEH,bHIGH YEH,cNOON,aPLACE OF SAJDAH,aEMPTY CENTRE LOW STOP,
     cHIGH STOP,aROUNDED HIGH STOP WITH FILLED CENTRE,aSMALL LOW MEEM,aLETTER DAL WITH INVERTED V,
     bREH WITH INVERTED V,EXTENDED ARABIC-INDIC DIGIT ZERO,cONE,cTWO,cTHREE,cFOUR,cFIVE,cSIX,cSEVEN,
     cEIGHT,cNINE,ARABIC LETTER SHEEN WITH DOT BELOW,bDAD WITH DOT BELOW,bGHAIN WITH DOT BELOW,
     aSIGN SINDHI AMPERSAND,cPOSTPOSITION MEN,aLETTER HEH WITH INVERTED V,SYRIAC END OF PARAGRAPH,
     aSUPRALINEAR FULL STOP,aSUBLINEAR FULL STOP,aSUPRALINEAR COLON,aSUBLINEAR COLON,
     aHORIZONTAL COLON,aCOLON SKEWED LEFT,cRIGHT,aSUPRALINEAR COLON SKEWED LEFT,
     aSUBLINEAR COLON SKEWED RIGHT,aCONTRACTION,aHARKLEAN OBELUS,bMETOBELUS,bASTERISCUS,,
     aABBREVIATION MARK,aLETTER ALAPH,bSUPERSCRIPT ALAPH,bBETH,bGAMAL,cGARSHUNI,bDALATH,
     bDOTLESS DALATH RISH,bHE,bWAW,bZAIN,bHETH,bTETH,cGARSHUNI,bYUDH,cHE,bKAPH,bLAMADH,bMIM,bNUN,
     bSEMKATH,bFINAL SEMKATH,bE,bPE,bREVERSED PE,bSADHE,bQAPH,bRISH,bSHIN,bTAW,bPERSIAN BHETH,
     cGHAMAL,cDHALATH,aPTHAHA ABOVE,bBELOW,bDOTTED,aZQAPHA ABOVE,bBELOW,bDOTTED,aRBASA ABOVE,bBELOW,
     aDOTTED ZLAMA HORIZONTAL,cANGULAR,aHBASA ABOVE,bBELOW,aHBASA-ESASA DOTTED,aESASA ABOVE,bBELOW,
     aRWAHA,aFEMININE DOT,aQUSHSHAYA,aRUKKAKHA,aTWO VERTICAL DOTS ABOVE,dBELOW,aTHREE DOTS ABOVE,
     cBELOW,aOBLIQUE LINE ABOVE,cBELOW,aMUSIC,aBARREKH,,,aLETTER SOGDIAN ZHAIN,cKHAPH,cFE,
     ARABIC LETTER BEH WITH THREE DOTS HORIZONTALLY BELOW,dDOT BELOW AND THREE DOTS ABOVE,
     dTHREE DOTS POINTING UPWARDS BELOW,iAND TWO DOTS ABOVE,dTWO DOTS BELOW AND DOT ABOVE,
     dINVERTED SMALL V BELOW,dSMALL V,bHAH WITH TWO DOTS ABOVE,dTHREE DOTS POINTING UPWARDS BELOW,
     bDAL WITH TWO DOTS VERTICALLY BELOW AND SMALL TAH,dINVERTED SMALL V BELOW,bREH WITH STROKE,
     bSEEN WITH FOUR DOTS ABOVE,bAIN WITH TWO DOTS ABOVE,dTHREE DOTS POINTING DOWNWARDS ABOVE,
     dTWO DOTS VERTICALLY ABOVE,bFEH WITH TWO DOTS BELOW,dTHREE DOTS POINTING UPWARDS BELOW,
     bKEHEH WITH DOT ABOVE,dTHREE DOTS ABOVE,fPOINTING UPWARDS BELOW,bMEEM WITH DOT ABOVE,eBELOW,
     bNOON WITH TWO DOTS BELOW,dSMALL TAH,eV,bLAM WITH BAR,bREH WITH TWO DOTS VERTICALLY ABOVE,
     dHAMZA ABOVE,bSEEN WITH TWO DOTS VERTICALLY ABOVE,bHAH WITH SMALL ARABIC LETTER TAH BELOW,
     hAND TWO DOTS,bSEEN WITH SMALL ARABIC LETTER TAH AND TWO DOTS,
     bREH WITH SMALL ARABIC LETTER TAH AND TWO DOTS,bHAH WITH SMALL ARABIC LETTER TAH ABOVE,
     bALEF WITH EXTENDED ARABIC-INDIC DIGIT TWO ABOVE,gTHREE ABOVE,
     bFARSI YEH WITH EXTENDED ARABIC-INDIC DIGIT TWO ABOVE,hTHREE ABOVE,hFOUR BELOW,
     bWAW WITH EXTENDED ARABIC-INDIC DIGIT TWO ABOVE,gTHREE ABOVE,
     bYEH BARREE WITH EXTENDED ARABIC-INDIC DIGIT TWO ABOVE,hTHREE ABOVE,
     bHAH WITH EXTENDED ARABIC-INDIC DIGIT FOUR BELOW,
     bSEEN WITH EXTENDED ARABIC-INDIC DIGIT FOUR ABOVE,dINVERTED V,bKAF WITH TWO DOTS ABOVE,
     THAANA LETTER HAA,bSHAVIYANI,bNOONU,bRAA,bBAA,bLHAVIYANI,bKAAFU,bALIFU,bVAAVU,bMEEMU,bFAAFU,
     bDHAALU,bTHAA,bLAAMU,bGAAFU,bGNAVIYANI,bSEENU,bDAVIYANI,bZAVIYANI,bTAVIYANI,bYAA,bPAVIYANI,
     bJAVIYANI,bCHAVIYANI,bTTAA,bHHAA,bKHAA,bTHAALU,bZAA,bSHEENU,bSAADHU,bDAADHU,bTO,bZO,bAINU,
     bGHAINU,bQAAFU,bWAAVU,aABAFILI,aAABAAFILI,aIBIFILI,aEEBEEFILI,aUBUFILI,aOOBOOFILI,aEBEFILI,
     aEYBEYFILI,aOBOFILI,aOABOAFILI,aSUKUN,aLETTER NAA"),
   (0x7c0, "NKO DIGIT ZERO,bONE,bTWO,bTHREE,bFOUR,bFIVE,bSIX,bSEVEN,bEIGHT,bNINE,aLETTER A,bEE,bI,
     bE,bU,bOO,bO,bDAGBASINNA,bN,bBA,bPA,bTA,bJA,bCHA,bDA,bRA,bRRA,bSA,bGBA,bFA,bKA,bLA,bNA WOLOSO,
     bMA,bNYA,bNA,bHA,bWA,bYA,bNYA WOLOSO,bJONA JA,cCHA,cRA,aCOMBINING SHORT HIGH TONE,cLOW TONE,
     cRISING TONE,bLONG DESCENDING TONE,cHIGH TONE,cLOW TONE,cRISING TONE,bNASALIZATION MARK,
     bDOUBLE DOT ABOVE,aHIGH TONE APOSTROPHE,aLOW TONE APOSTROPHE,aSYMBOL OO DENNEN,bGBAKURUNEN,
     aCOMMA,aEXCLAMATION MARK,aLAJANYALAN,,,aDANTAYALAN,aDOROME SIGN,aTAMAN SIGN,
     SAMARITAN LETTER ALAF,bBIT,bGAMAN,bDALAT,bIY,bBAA,bZEN,bIT,bTIT,bYUT,bKAAF,bLABAT,bMIM,bNUN,
     bSINGAAT,bIN,bFI,bTSAADIY,bQUF,bRISH,bSHAN,bTAAF,aMARK IN,bIN-ALAF,bOCCLUSION,bDAGESH,
     aMODIFIER LETTER EPENTHETIC YUT,aMARK EPENTHETIC YUT,aVOWEL SIGN LONG E,cE,cOVERLONG AA,
     cLONG AA,cAA,cOVERLONG A,cLONG A,cA,aMODIFIER LETTER SHORT A,aVOWEL SIGN SHORT A,cLONG U,cU,
     aMODIFIER LETTER I,aVOWEL SIGN LONG I,cI,cO,cSUKUN,aMARK NEQUDAA,,,aPUNCTUATION NEQUDAA,
     bAFSAAQ,bANGED,bBAU,bATMAAU,bSHIYYAALAA,aABBREVIATION MARK,aPUNCTUATION MELODIC QITSA,bZIQAA,
     bQITSA,bZAEF,bTURU,bARKAANU,bSOF MASHFAAT,bANNAAU,,MANDAIC LETTER HALQA,bAB,bAG,bAD,bAH,
     bUSHENNA,bAZ,bIT,bATT,bAKSA,bAK,bAL,bAM,bAN,bAS,bIN,bAP,bASZ,bAQ,bAR,bASH,bAT,bDUSHENNA,bKAD,
     bAIN,aAFFRICATION MARK,aVOCALIZATION MARK,aGEMINATION MARK,,,aPUNCTUATION,,
     SYRIAC LETTER MALAYALAM NGA,cJA,cNYA,cTTA,cNNA,cNNNA,cBHA,cRA,cLLA,cLLLA,cSSA,,,,,,
     ARABIC LETTER ALEF WITH ATTACHED FATHA,eTOP RIGHT FATHA,dRIGHT MIDDLE STROKE,
     dLEFT MIDDLE STROKE,dATTACHED KASRA,eBOTTOM RIGHT KASRA,eROUND DOT ABOVE,eRIGHT ROUND DOT,
     eLEFT ROUND DOT,eROUND DOT BELOW,dDOT ABOVE,dATTACHED TOP RIGHT FATHA AND DOT ABOVE,
     dRIGHT MIDDLE STROKE AND DOT ABOVE,dATTACHED BOTTOM RIGHT KASRA AND DOT ABOVE,
     eTOP RIGHT FATHA AND LEFT RING,dRIGHT MIDDLE STROKE AND LEFT RING,
     dATTACHED BOTTOM RIGHT KASRA AND LEFT RING,eRIGHT HAMZA,eLEFT HAMZA,
     aTATWEEL WITH OVERSTRUCK HAMZA,dWAW,cTWO DOTS BELOW,aLETTER THIN YEH,aBASELINE ROUND DOT,
     aRAISED ROUND DOT,aLETTER NOON WITH INVERTED SMALL V,bHAH WITH INVERTED SMALL V BELOW,
     bTAH WITH DOT BELOW,dTHREE DOTS BELOW,bKEHEH WITH TWO DOTS VERTICALLY BELOW,aVERTICAL TAIL,,
     aPOUND MARK ABOVE,aPIASTRE MARK ABOVE,,,,,,,aSMALL HIGH WORD AL-JUZ,bLOW WORD ISHMAAM,dIMAALA,
     dTASHEEL,aMADDA WAAJIB,aSUPERSCRIPT ALEF MOKHASSAS,aDOUBLED MADDA,aHALF MADDA OVER MADDA,
     aLETTER BEH WITH SMALL V BELOW,dHAMZA ABOVE,bJEEM WITH TWO DOTS ABOVE,bTAH WITH TWO DOTS ABOVE,
     bFEH WITH DOT BELOW AND THREE DOTS ABOVE,bQAF WITH DOT BELOW,bLAM WITH DOUBLE BAR,
     bMEEM WITH THREE DOTS ABOVE,bYEH WITH TWO DOTS BELOW AND HAMZA ABOVE,hDOT ABOVE,bREH WITH LOOP,
     bWAW WITH DOT WITHIN,bROHINGYA YEH,bLOW ALEF,bDAL WITH THREE DOTS BELOW,
     bSAD WITH THREE DOTS BELOW,bGAF WITH INVERTED STROKE,bSTRAIGHT WAW,bZAIN WITH INVERTED V ABOVE,
     bAIN WITH THREE DOTS BELOW,bKAF WITH DOT BELOW,bQAF WITH DOT BELOW AND NO DOTS ABOVE,
     bBEH WITH SMALL MEEM ABOVE,bPEH WITH SMALL MEEM ABOVE,bTEH WITH SMALL TEH ABOVE,
     bREH WITH SMALL NOON ABOVE,bYEH WITH TWO DOTS BELOW AND SMALL NOON ABOVE,bAFRICAN FEH,cQAF,
     cNOON,bPEH WITH SMALL V,bTEH WITH SMALL V,bTTEH WITH SMALL V,bTCHEH WITH SMALL V,
     bKEHEH WITH SMALL V,bGHAIN WITH THREE DOTS ABOVE,bAFRICAN QAF WITH THREE DOTS ABOVE,
     bJEEM WITH THREE DOTS ABOVE,fBELOW,bLAM WITH SMALL ARABIC LETTER TAH ABOVE,bGRAF,
     aSMALL FARSI YEH,bHIGH FARSI YEH,cYEH BARREE WITH TWO DOTS BELOW,cWORD SAH,cZAH,
     aLARGE ROUND DOT ABOVE,dBELOW,aSUKUN BELOW,aLARGE CIRCLE BELOW,bROUND DOT INSIDE CIRCLE BELOW,
     aSMALL LOW WAW,bHIGH WORD AR-RUB,cSAD,cAIN,cQAF,cNOON WITH KASRA,bLOW NOON WITH KASRA,
     bHIGH WORD ATH-THALATHA,dAS-SAJDA,dAN-NISF,dSAKTA,dQIF,dWAQFA,cFOOTNOTE MARKER,cSIGN SAFHA,
     aDISPUTED END OF AYAH,aTURNED DAMMA BELOW,aCURLY FATHA,bDAMMA,bKASRA,bFATHATAN,bDAMMATAN,
     bKASRATAN,aTONE ONE DOT ABOVE,bTWO DOTS ABOVE,bLOOP ABOVE,bONE DOT BELOW,bTWO DOTS BELOW,
     bLOOP BELOW,aOPEN FATHATAN,bDAMMATAN,bKASRATAN,aSMALL HIGH WAW,aFATHA WITH RING,cDOT ABOVE,
     aKASRA WITH DOT BELOW,aLEFT ARROWHEAD ABOVE,aRIGHT ARROWHEAD ABOVE,aLEFT ARROWHEAD BELOW,
     aRIGHT ARROWHEAD BELOW,aDOUBLE RIGHT ARROWHEAD ABOVE,eWITH DOT,aRIGHT ARROWHEAD ABOVE WITH DOT,
     aDAMMA WITH DOT,aMARK SIDEWAYS NOON GHUNNA,DEVANAGARI SIGN INVERTED CANDRABINDU,bCANDRABINDU,
     bANUSVARA,bVISARGA,aLETTER SHORT A,bA,bAA,bI,bII,bU,bUU,bVOCALIC R,cL,bCANDRA E,bSHORT E,bE,
     bAI,bCANDRA O,bSHORT O,bO,bAU,bKA,bKHA,bGA,bGHA,bNGA,bCA,bCHA,bJA,bJHA,bNYA,bTTA,bTTHA,bDDA,
     bDDHA,bNNA,bTA,bTHA,bDA,bDHA,bNA,bNNNA,bPA,bPHA,bBA,bBHA,bMA,bYA,bRA,bRRA,bLA,bLLA,bLLLA,bVA,
     bSHA,bSSA,bSA,bHA,aVOWEL SIGN OE,cOOE,aSIGN NUKTA,bAVAGRAHA,aVOWEL SIGN AA,cI,cII,cU,cUU,
     cVOCALIC R,dRR,cCANDRA E,cSHORT E,cE,cAI,cCANDRA O,cSHORT O,cO,cAU,aSIGN VIRAMA,
     aVOWEL SIGN PRISHTHAMATRA E,cAW,aOM,aSTRESS SIGN UDATTA,cANUDATTA,aGRAVE ACCENT,aACUTE ACCENT,
     aVOWEL SIGN CANDRA LONG E,cUE,cUUE,aLETTER QA,bKHHA,bGHHA,bZA,bDDDHA,bRHA,bFA,bYYA,bVOCALIC RR,
     cLL,aVOWEL SIGN VOCALIC L,dLL,aDANDA,aDOUBLE DANDA,aDIGIT ZERO,bONE,bTWO,bTHREE,bFOUR,bFIVE,
     bSIX,bSEVEN,bEIGHT,bNINE,aABBREVIATION SIGN,aSIGN HIGH SPACING DOT,aLETTER CANDRA A,bOE,bOOE,
     bAW,bUE,bUUE,bMARWARI DDA,bZHA,bHEAVY YA,bGGA,bJJA,bGLOTTAL STOP,bDDDA,bBBA,BENGALI ANJI,
     aSIGN CANDRABINDU,bANUSVARA,bVISARGA,,aLETTER A,bAA,bI,bII,bU,bUU,bVOCALIC R,cL,,,bE,bAI,,,bO,
     bAU,bKA,bKHA,bGA,bGHA,bNGA,bCA,bCHA,bJA,bJHA,bNYA,bTTA,bTTHA,bDDA,bDDHA,bNNA,bTA,bTHA,bDA,bDHA,
     bNA,,bPA,bPHA,bBA,bBHA,bMA,bYA,bRA,,bLA,,,,bSHA,bSSA,bSA,bHA,,,aSIGN NUKTA,bAVAGRAHA,
     aVOWEL SIGN AA,cI,cII,cU,cUU,cVOCALIC R,dRR,,,cE,cAI,,,cO,cAU,aSIGN VIRAMA,aLETTER KHANDA TA,,,
     ,,,,,,aAU LENGTH MARK,,,,,aLETTER RRA,bRHA,,bYYA,bVOCALIC RR,cLL,aVOWEL SIGN VOCALIC L,dLL,,,
     aDIGIT ZERO,bONE,bTWO,bTHREE,bFOUR,bFIVE,bSIX,bSEVEN,bEIGHT,bNINE,
     aLETTER RA WITH MIDDLE DIAGONAL,dLOWER DIAGONAL,aRUPEE MARK,bSIGN,aCURRENCY NUMERATOR ONE,cTWO,
     cTHREE,cFOUR,cONE LESS THAN THE DENOMINATOR,bDENOMINATOR SIXTEEN,aISSHAR,aGANDA MARK,
     aLETTER VEDIC ANUSVARA,aABBREVIATION SIGN,aSANDHI MARK,,,GURMUKHI SIGN ADAK BINDI,bBINDI,
     bVISARGA,,aLETTER A,bAA,bI,bII,bU,bUU,,,,,bEE,bAI,,,bOO,bAU,bKA,bKHA,bGA,bGHA,bNGA,bCA,bCHA,
     bJA,bJHA,bNYA,bTTA,bTTHA,bDDA,bDDHA,bNNA,bTA,bTHA,bDA,bDHA,bNA,,bPA,bPHA,bBA,bBHA,bMA,bYA,bRA,,
     bLA,bLLA,,bVA,bSHA,,bSA,bHA,,,aSIGN NUKTA,,aVOWEL SIGN AA,cI,cII,cU,cUU,,,,,cEE,cAI,,,cOO,cAU,
     aSIGN VIRAMA,,,,bUDAAT,,,,,,,,aLETTER KHHA,bGHHA,bZA,bRRA,,bFA,,,,,,,,aDIGIT ZERO,bONE,bTWO,
     bTHREE,bFOUR,bFIVE,bSIX,bSEVEN,bEIGHT,bNINE,aTIPPI,aADDAK,aIRI,aURA,aEK ONKAR,aSIGN YAKASH,
     aABBREVIATION SIGN"),
   (0xa81, "GUJARATI SIGN CANDRABINDU,bANUSVARA,bVISARGA,,aLETTER A,bAA,bI,bII,bU,bUU,bVOCALIC R,cL,
     aVOWEL CANDRA E,,aLETTER E,bAI,aVOWEL CANDRA O,,aLETTER O,bAU,bKA,bKHA,bGA,bGHA,bNGA,bCA,bCHA,
     bJA,bJHA,bNYA,bTTA,bTTHA,bDDA,bDDHA,bNNA,bTA,bTHA,bDA,bDHA,bNA,,bPA,bPHA,bBA,bBHA,bMA,bYA,bRA,,
     bLA,bLLA,,bVA,bSHA,bSSA,bSA,bHA,,,aSIGN NUKTA,bAVAGRAHA,aVOWEL SIGN AA,cI,cII,cU,cUU,
     cVOCALIC R,dRR,cCANDRA E,,cE,cAI,cCANDRA O,,cO,cAU,aSIGN VIRAMA,,,aOM"),
   (0xae0, "GUJARATI LETTER VOCALIC RR,cLL,aVOWEL SIGN VOCALIC L,dLL,,,aDIGIT ZERO,bONE,bTWO,bTHREE,
     bFOUR,bFIVE,bSIX,bSEVEN,bEIGHT,bNINE,aABBREVIATION SIGN,aRUPEE SIGN,,,,,,,,aLETTER ZHA,
     aSIGN SUKUN,bSHADDA,bMADDAH,bTHREE-DOT NUKTA ABOVE,bCIRCLE NUKTA ABOVE,bTWO-CIRCLE NUKTA ABOVE,
     ,ORIYA SIGN CANDRABINDU,bANUSVARA,bVISARGA,,aLETTER A,bAA,bI,bII,bU,bUU,bVOCALIC R,cL,,,bE,bAI,
     ,,bO,bAU,bKA,bKHA,bGA,bGHA,bNGA,bCA,bCHA,bJA,bJHA,bNYA,bTTA,bTTHA,bDDA,bDDHA,bNNA,bTA,bTHA,bDA,
     bDHA,bNA,,bPA,bPHA,bBA,bBHA,bMA,bYA,bRA,,bLA,bLLA,,bVA,bSHA,bSSA,bSA,bHA,,,aSIGN NUKTA,
     bAVAGRAHA,aVOWEL SIGN AA,cI,cII,cU,cUU,cVOCALIC R,dRR,,,cE,cAI,,,cO,cAU,aSIGN VIRAMA,,,,,,,,
     bOVERLINE,aAI LENGTH MARK,aAU LENGTH MARK,,,,,aLETTER RRA,bRHA,,bYYA,bVOCALIC RR,cLL,
     aVOWEL SIGN VOCALIC L,dLL,,,aDIGIT ZERO,bONE,bTWO,bTHREE,bFOUR,bFIVE,bSIX,bSEVEN,bEIGHT,bNINE,
     aISSHAR,aLETTER WA,aFRACTION ONE QUARTER,cHALF,bTHREE QUARTERS,bONE SIXTEENTH,cEIGHTH,
     bTHREE SIXTEENTHS"),
   (0xb82, "TAMIL SIGN ANUSVARA,bVISARGA,,aLETTER A,bAA,bI,bII,bU,bUU,,,,bE,bEE,bAI,,bO,bOO,bAU,bKA,
     ,,,bNGA,bCA,,bJA,,bNYA,bTTA,,,,bNNA,bTA,,,,bNA,bNNNA,bPA,,,,bMA,bYA,bRA,bRRA,bLA,bLLA,bLLLA,
     bVA,bSHA,bSSA,bSA,bHA,,,,,aVOWEL SIGN AA,cI,cII,cU,cUU,,,,cE,cEE,cAI,,cO,cOO,cAU,aSIGN VIRAMA,,
     ,aOM,,,,,,,aAU LENGTH MARK"),
   (0xbe6, "TAMIL DIGIT ZERO,bONE,bTWO,bTHREE,bFOUR,bFIVE,bSIX,bSEVEN,bEIGHT,bNINE,aNUMBER TEN,
     bONE HUNDRED,cTHOUSAND,aDAY SIGN,aMONTH SIGN,aYEAR SIGN,aDEBIT SIGN,aCREDIT SIGN,
     aAS ABOVE SIGN,aRUPEE SIGN,aNUMBER SIGN,,,,,,TELUGU SIGN COMBINING CANDRABINDU ABOVE,
     bCANDRABINDU,bANUSVARA,bVISARGA,bCOMBINING ANUSVARA ABOVE,aLETTER A,bAA,bI,bII,bU,bUU,
     bVOCALIC R,cL,,bE,bEE,bAI,,bO,bOO,bAU,bKA,bKHA,bGA,bGHA,bNGA,bCA,bCHA,bJA,bJHA,bNYA,bTTA,bTTHA,
     bDDA,bDDHA,bNNA,bTA,bTHA,bDA,bDHA,bNA,,bPA,bPHA,bBA,bBHA,bMA,bYA,bRA,bRRA,bLA,bLLA,bLLLA,bVA,
     bSHA,bSSA,bSA,bHA,,,aSIGN NUKTA,bAVAGRAHA,aVOWEL SIGN AA,cI,cII,cU,cUU,cVOCALIC R,dRR,,cE,cEE,
     cAI,,cO,cOO,cAU,aSIGN VIRAMA,,,,,,,,aLENGTH MARK,aAI LENGTH MARK,,aLETTER TSA,bDZA,bRRRA,,,
     bNAKAARA POLLU,,,bVOCALIC RR,cLL,aVOWEL SIGN VOCALIC L,dLL,,,aDIGIT ZERO,bONE,bTWO,bTHREE,
     bFOUR,bFIVE,bSIX,bSEVEN,bEIGHT,bNINE,,,,,,,,aSIGN SIDDHAM,
     aFRACTION DIGIT ZERO FOR ODD POWERS OF FOUR,cONE FOR ODD POWERS OF FOUR,
     cTWO FOR ODD POWERS OF FOUR,cTHREE FOR ODD POWERS OF FOUR,cONE FOR EVEN POWERS OF FOUR,
     cTWO FOR EVEN POWERS OF FOUR,cTHREE FOR EVEN POWERS OF FOUR,aSIGN TUUMU,
     KANNADA SIGN SPACING CANDRABINDU,bCANDRABINDU,bANUSVARA,bVISARGA,bSIDDHAM,aLETTER A,bAA,bI,bII,
     bU,bUU,bVOCALIC R,cL,,bE,bEE,bAI,,bO,bOO,bAU,bKA,bKHA,bGA,bGHA,bNGA,bCA,bCHA,bJA,bJHA,bNYA,
     bTTA,bTTHA,bDDA,bDDHA,bNNA,bTA,bTHA,bDA,bDHA,bNA,,bPA,bPHA,bBA,bBHA,bMA,bYA,bRA,bRRA,bLA,bLLA,,
     bVA,bSHA,bSSA,bSA,bHA,,,aSIGN NUKTA,bAVAGRAHA,aVOWEL SIGN AA,cI,cII,cU,cUU,cVOCALIC R,dRR,,cE,
     cEE,cAI,,cO,cOO,cAU,aSIGN VIRAMA,,,,,,,,aLENGTH MARK,aAI LENGTH MARK,,,,,,,
     aLETTER NAKAARA POLLU,bFA,,bVOCALIC RR,cLL,aVOWEL SIGN VOCALIC L,dLL,,,aDIGIT ZERO,bONE,bTWO,
     bTHREE,bFOUR,bFIVE,bSIX,bSEVEN,bEIGHT,bNINE,,aSIGN JIHVAMULIYA,bUPADHMANIYA"),
   (0xd00, "MALAYALAM SIGN COMBINING ANUSVARA ABOVE,bCANDRABINDU,bANUSVARA,bVISARGA,
     aLETTER VEDIC ANUSVARA,bA,bAA,bI,bII,bU,bUU,bVOCALIC R,cL,,bE,bEE,bAI,,bO,bOO,bAU,bKA,bKHA,bGA,
     bGHA,bNGA,bCA,bCHA,bJA,bJHA,bNYA,bTTA,bTTHA,bDDA,bDDHA,bNNA,bTA,bTHA,bDA,bDHA,bNA,bNNNA,bPA,
     bPHA,bBA,bBHA,bMA,bYA,bRA,bRRA,bLA,bLLA,bLLLA,bVA,bSHA,bSSA,bSA,bHA,bTTTA,
     aSIGN VERTICAL BAR VIRAMA,bCIRCULAR VIRAMA,bAVAGRAHA,aVOWEL SIGN AA,cI,cII,cU,cUU,cVOCALIC R,
     dRR,,cE,cEE,cAI,,cO,cOO,cAU,aSIGN VIRAMA,aLETTER DOT REPH,aSIGN PARA,,,,,aLETTER CHILLU M,cY,
     cLLL,aAU LENGTH MARK,aFRACTION ONE ONE-HUNDRED-AND-SIXTIETH,cFORTIETH,bTHREE EIGHTIETHS,
     bONE TWENTIETH,cTENTH,bTHREE TWENTIETHS,bONE FIFTH,aLETTER ARCHAIC II,bVOCALIC RR,cLL,
     aVOWEL SIGN VOCALIC L,dLL,,,aDIGIT ZERO,bONE,bTWO,bTHREE,bFOUR,bFIVE,bSIX,bSEVEN,bEIGHT,bNINE,
     aNUMBER TEN,bONE HUNDRED,cTHOUSAND,aFRACTION ONE QUARTER,cHALF,bTHREE QUARTERS,bONE SIXTEENTH,
     cEIGHTH,bTHREE SIXTEENTHS,aDATE MARK,aLETTER CHILLU NN,cN,cRR,cL,cLL,cK,,
     SINHALA SIGN CANDRABINDU,bANUSVARAYA,bVISARGAYA,,aLETTER AYANNA,bAAYANNA,bAEYANNA,bAEEYANNA,
     bIYANNA,bIIYANNA,bUYANNA,bUUYANNA,bIRUYANNA,bIRUUYANNA,bILUYANNA,bILUUYANNA,bEYANNA,bEEYANNA,
     bAIYANNA,bOYANNA,bOOYANNA,bAUYANNA,,,,bALPAPRAANA KAYANNA,bMAHAAPRAANA KAYANNA,
     bALPAPRAANA GAYANNA,bMAHAAPRAANA GAYANNA,bKANTAJA NAASIKYAYA,bSANYAKA GAYANNA,
     bALPAPRAANA CAYANNA,bMAHAAPRAANA CAYANNA,bALPAPRAANA JAYANNA,bMAHAAPRAANA JAYANNA,
     bTAALUJA NAASIKYAYA,cSANYOOGA NAAKSIKYAYA,bSANYAKA JAYANNA,bALPAPRAANA TTAYANNA,
     bMAHAAPRAANA TTAYANNA,bALPAPRAANA DDAYANNA,bMAHAAPRAANA DDAYANNA,bMUURDHAJA NAYANNA,
     bSANYAKA DDAYANNA,bALPAPRAANA TAYANNA,bMAHAAPRAANA TAYANNA,bALPAPRAANA DAYANNA,
     bMAHAAPRAANA DAYANNA,bDANTAJA NAYANNA,,bSANYAKA DAYANNA,bALPAPRAANA PAYANNA,
     bMAHAAPRAANA PAYANNA,bALPAPRAANA BAYANNA,bMAHAAPRAANA BAYANNA,bMAYANNA,bAMBA BAYANNA,bYAYANNA,
     bRAYANNA,,bDANTAJA LAYANNA,,,bVAYANNA,bTAALUJA SAYANNA,bMUURDHAJA SAYANNA,bDANTAJA SAYANNA,
     bHAYANNA,bMUURDHAJA LAYANNA,bFAYANNA,,,,aSIGN AL-LAKUNA,,,,,aVOWEL SIGN AELA-PILLA,
     cKETTI AEDA-PILLA,cDIGA AEDA-PILLA,cKETTI IS-PILLA,cDIGA IS-PILLA,cKETTI PAA-PILLA,,
     cDIGA PAA-PILLA,,cGAETTA-PILLA,cKOMBUVA,cDIGA KOMBUVA,cKOMBU DEKA,cKOMBUVA HAA AELA-PILLA,
     eDIGA AELA-PILLA,eGAYANUKITTA,cGAYANUKITTA,,,,,,,aLITH DIGIT ZERO,cONE,cTWO,cTHREE,cFOUR,cFIVE,
     cSIX,cSEVEN,cEIGHT,cNINE,,,aVOWEL SIGN DIGA GAETTA-PILLA,dGAYANUKITTA,
     aPUNCTUATION KUNDDALIYA"),
   (0xe01, "THAI CHARACTER KO KAI,bKHO KHAI,cKHUAT,cKHWAI,cKHON,cRAKHANG,bNGO NGU,bCHO CHAN,cCHING,
     cCHANG,bSO SO,bCHO CHOE,bYO YING,bDO CHADA,bTO PATAK,bTHO THAN,cNANGMONTHO,cPHUTHAO,bNO NEN,
     bDO DEK,bTO TAO,bTHO THUNG,cTHAHAN,cTHONG,bNO NU,bBO BAIMAI,bPO PLA,bPHO PHUNG,bFO FA,
     bPHO PHAN,bFO FAN,bPHO SAMPHAO,bMO MA,bYO YAK,bRO RUA,bRU,bLO LING,bLU,bWO WAEN,bSO SALA,cRUSI,
     cSUA,bHO HIP,bLO CHULA,bO ANG,bHO NOKHUK,bPAIYANNOI,bSARA A,bMAI HAN-AKAT,bSARA AA,cAM,cI,cII,
     cUE,cUEE,cU,cUU,bPHINTHU,,,,,aCURRENCY SYMBOL BAHT,aCHARACTER SARA E,cAE,cO,cAI MAIMUAN,
     dMAIMALAI,bLAKKHANGYAO,bMAIYAMOK,bMAITAIKHU,bMAI EK,cTHO,cTRI,cCHATTAWA,bTHANTHAKHAT,bNIKHAHIT,
     bYAMAKKAN,bFONGMAN,aDIGIT ZERO,bONE,bTWO,bTHREE,bFOUR,bFIVE,bSIX,bSEVEN,bEIGHT,bNINE,
     aCHARACTER ANGKHANKHU,bKHOMUT"),
   (0xe81, "LAO LETTER KO,bKHO SUNG,,cTAM,,bPALI GHA,bNGO,bCO,bPALI CHA,bSO TAM,,bPALI JHA,bNYO,
     bPALI NYA,cTTA,cTTHA,cDDA,cDDHA,cNNA,bDO,bTO,bTHO SUNG,cTAM,bPALI DHA,bNO,bBO,bPO,bPHO SUNG,
     bFO TAM,bPHO TAM,bFO SUNG,bPALI BHA,bMO,bYO,bLO LING,,cLOOT,,bWO,bSANSKRIT SHA,cSSA,bSO SUNG,
     bHO SUNG,bPALI LLA,bO,bHO TAM,aELLIPSIS,aVOWEL SIGN A,cMAI KAN,cAA,cAM,cI,cII,cY,cYY,cU,cUU,
     aSIGN PALI VIRAMA,aVOWEL SIGN MAI KON,aSEMIVOWEL SIGN LO,cNYO,,,aVOWEL SIGN E,cEI,cO,cAY,cAI,,
     aKO LA,,aTONE MAI EK,cTHO,cTI,cCATAWA,aCANCELLATION MARK,aNIGGAHITA,,,aDIGIT ZERO,bONE,bTWO,
     bTHREE,bFOUR,bFIVE,bSIX,bSEVEN,bEIGHT,bNINE,,,aHO NO,bMO,aLETTER KHMU GO,cNYO"),
   (0xf00, "TIBETAN SYLLABLE OM,aMARK GTER YIG MGO TRUNCATED A,e-UM RNAM BCAD MA,fGTER TSHEG MA,
     bINITIAL YIG MGO MDUN MA,bCLOSING YIG MGO SGAB MA,bCARET YIG MGO PHUR SHAD MA,
     bYIG MGO TSHEG SHAD MA,bSBRUL SHAD,bBSKUR YIG MGO,bBKA- SHOG YIG MGO,bINTERSYLLABIC TSHEG,
     bDELIMITER TSHEG BSTAR,bSHAD,bNYIS SHAD,bTSHEG SHAD,bNYIS TSHEG SHAD,bRIN CHEN SPUNGS SHAD,
     bRGYA GRAM SHAD,bCARET -DZUD RTAGS ME LONG CAN,bGTER TSHEG,aLOGOTYPE SIGN CHAD RTAGS,
     cLHAG RTAGS,aASTROLOGICAL SIGN SGRA GCAN -CHAR RTAGS,c-KHYUD PA,cSDONG TSHUGS,
     aSIGN RDEL DKAR GCIG,dGNYIS,dGSUM,cNAG GCIG,dGNYIS,cDKAR RDEL NAG,aDIGIT ZERO,bONE,bTWO,bTHREE,
     bFOUR,bFIVE,bSIX,bSEVEN,bEIGHT,bNINE,bHALF ONE,cTWO,cTHREE,cFOUR,cFIVE,cSIX,cSEVEN,cEIGHT,
     cNINE,cZERO,aMARK BSDUS RTAGS,bNGAS BZUNG NYI ZLA,bCARET -DZUD RTAGS BZHI MIG CAN,
     bNGAS BZUNG SGOR RTAGS,bCHE MGO,bTSA -PHRU,bGUG RTAGS GYON,dGYAS,bANG KHANG GYON,dGYAS,
     aSIGN YAR TSHES,bMAR TSHES,aLETTER KA,bKHA,bGA,bGHA,bNGA,bCA,bCHA,bJA,,bNYA,bTTA,bTTHA,bDDA,
     bDDHA,bNNA,bTA,bTHA,bDA,bDHA,bNA,bPA,bPHA,bBA,bBHA,bMA,bTSA,bTSHA,bDZA,bDZHA,bWA,bZHA,bZA,b-A,
     bYA,bRA,bLA,bSHA,bSSA,bSA,bHA,bA,bKSSA,bFIXED-FORM RA,bKKA,bRRA,,,,,aVOWEL SIGN AA,cI,cII,cU,
     cUU,cVOCALIC R,dRR,dL,dLL,cE,cEE,cO,cOO,aSIGN RJES SU NGA RO,bRNAM BCAD,aVOWEL SIGN REVERSED I,
     dII,aSIGN NYI ZLA NAA DA,bSNA LDAN,aMARK HALANTA,bPALUTA,aSIGN LCI RTAGS,bYANG RTAGS,
     bLCE TSA CAN,bMCHU CAN,bGRU CAN RGYINGS,cMED RGYINGS,bINVERTED MCHU CAN,
     aSUBJOINED SIGN LCE TSA CAN,cMCHU CAN,cINVERTED MCHU CAN,bLETTER KA,cKHA,cGA,cGHA,cNGA,cCA,
     cCHA,cJA,,cNYA,cTTA,cTTHA,cDDA,cDDHA,cNNA,cTA,cTHA,cDA,cDHA,cNA,cPA,cPHA,cBA,cBHA,cMA,cTSA,
     cTSHA,cDZA,cDZHA,cWA,cZHA,cZA,c-A,cYA,cRA,cLA,cSHA,cSSA,cSA,cHA,cA,cKSSA,cFIXED-FORM WA,dYA,
     dRA,,aKU RU KHA,dBZHI MIG CAN,aCANTILLATION SIGN HEAVY BEAT,cLIGHT BEAT,cCANG TE-U,cSBUB -CHAL,
     aSYMBOL DRIL BU,bRDO RJE,bPADMA GDAN,bRDO RJE RGYA GRAM,bPHUR PA,bNOR BU,dNYIS -KHYIL,
     dGSUM -KHYIL,dBZHI -KHYIL,,aSIGN RDEL NAG RDEL DKAR,dGSUM,aMARK BSKA- SHOG GI MGO RGYAN,
     bMNYAM YIG GI MGO RGYAN,bNYIS TSHEG,bINITIAL BRDA RNYING YIG MGO MDUN MA,
     bCLOSING BRDA RNYING YIG MGO SGAB MA,RIGHT-FACING SVASTI SIGN,LEFT-FACING SVASTI SIGN,
     RIGHT-FACING SVASTI SIGN WITH DOTS,LEFT-FACING SVASTI SIGN WITH DOTS,
     TIBETAN MARK LEADING MCHAN RTAGS,bTRAILING MCHAN RTAGS"),
   (0x1000, "MYANMAR LETTER KA,bKHA,bGA,bGHA,bNGA,bCA,bCHA,bJA,bJHA,bNYA,bNNYA,bTTA,bTTHA,bDDA,
     bDDHA,bNNA,bTA,bTHA,bDA,bDHA,bNA,bPA,bPHA,bBA,bBHA,bMA,bYA,bRA,bLA,bWA,bSA,bHA,bLLA,bA,bSHAN A,
     bI,bII,bU,bUU,bE,bMON E,bO,bAU,aVOWEL SIGN TALL AA,cAA,cI,cII,cU,cUU,cE,cAI,cMON II,dO,
     cE ABOVE,aSIGN ANUSVARA,bDOT BELOW,bVISARGA,bVIRAMA,bASAT,aCONSONANT SIGN MEDIAL YA,dRA,dWA,
     dHA,aLETTER GREAT SA,aDIGIT ZERO,bONE,bTWO,bTHREE,bFOUR,bFIVE,bSIX,bSEVEN,bEIGHT,bNINE,
     aSIGN LITTLE SECTION,bSECTION,aSYMBOL LOCATIVE,bCOMPLETED,bAFOREMENTIONED,bGENITIVE,
     aLETTER SHA,bSSA,bVOCALIC R,cRR,cL,cLL,aVOWEL SIGN VOCALIC R,dRR,dL,dLL,aLETTER MON NGA,cJHA,
     cBBA,cBBE,aCONSONANT SIGN MON MEDIAL NA,eMA,eLA,aLETTER SGAW KAREN SHA,
     aVOWEL SIGN SGAW KAREN EU,aTONE MARK SGAW KAREN HATHI,eKE PHO,aLETTER WESTERN PWO KAREN THA,
     ePWA,aVOWEL SIGN WESTERN PWO KAREN EU,fUE,aSIGN WESTERN PWO KAREN TONE-1,eTONE-2,eTONE-3,
     eTONE-4,eTONE-5,aLETTER EASTERN PWO KAREN NNA,eYWA,eGHWA,aVOWEL SIGN GEBA KAREN I,cKAYAH OE,dU,
     dEE,aLETTER SHAN KA,cKHA,cGA,cCA,cZA,cNYA,cDA,cNA,cPHA,cFA,cBA,cTHA,cHA,
     aCONSONANT SIGN SHAN MEDIAL WA,aVOWEL SIGN SHAN AA,dE,eABOVE,dFINAL Y,aSIGN SHAN TONE-2,
     cTONE-3,cTONE-5,cTONE-6,cCOUNCIL TONE-2,dTONE-3,dEMPHATIC TONE,aLETTER RUMAI PALAUNG FA,
     aSIGN RUMAI PALAUNG TONE-5,aSHAN DIGIT ZERO,cONE,cTWO,cTHREE,cFOUR,cFIVE,cSIX,cSEVEN,cEIGHT,
     cNINE,aSIGN KHAMTI TONE-1,cTONE-3,aVOWEL SIGN AITON A,dAI,aSYMBOL SHAN ONE,cEXCLAMATION,
     GEORGIAN CAPITAL LETTER AN,cBAN,cGAN,cDON,cEN,cVIN,cZEN,cTAN,cIN,cKAN,cLAS,cMAN,cNAR,cON,cPAR,
     cZHAR,cRAE,cSAN,cTAR,cUN,cPHAR,cKHAR,cGHAN,cQAR,cSHIN,cCHIN,cCAN,cJIL,cCIL,cCHAR,cXAN,cJHAN,
     cHAE,cHE,cHIE,cWE,cHAR,cHOE,,cYN,,,,,,cAEN,,,aLETTER AN,bBAN,bGAN,bDON,bEN,bVIN,bZEN,bTAN,bIN,
     bKAN,bLAS,bMAN,bNAR,bON,bPAR,bZHAR,bRAE,bSAN,bTAR,bUN,bPHAR,bKHAR,bGHAN,bQAR,bSHIN,bCHIN,bCAN,
     bJIL,bCIL,bCHAR,bXAN,bJHAN,bHAE,bHE,bHIE,bWE,bHAR,bHOE,bFI,bYN,bELIFI,bTURNED GAN,bAIN,
     aPARAGRAPH SEPARATOR,MODIFIER LETTER GEORGIAN NAR,GEORGIAN LETTER AEN,bHARD SIGN,bLABIAL SIGN,
     HANGUL CHOSEONG KIYEOK,bSSANGKIYEOK,bNIEUN,bTIKEUT,bSSANGTIKEUT,bRIEUL,bMIEUM,bPIEUP,
     bSSANGPIEUP,bSIOS,bSSANGSIOS,bIEUNG,bCIEUC,bSSANGCIEUC,bCHIEUCH,bKHIEUKH,bTHIEUTH,bPHIEUPH,
     bHIEUH,bNIEUN-KIYEOK,bSSANGNIEUN,bNIEUN-TIKEUT,bNIEUN-PIEUP,bTIKEUT-KIYEOK,bRIEUL-NIEUN,
     bSSANGRIEUL,bRIEUL-HIEUH,bKAPYEOUNRIEUL,bMIEUM-PIEUP,bKAPYEOUNMIEUM,bPIEUP-KIYEOK,bPIEUP-NIEUN,
     bPIEUP-TIKEUT,bPIEUP-SIOS,bPIEUP-SIOS-KIYEOK,bPIEUP-SIOS-TIKEUT,bPIEUP-SIOS-PIEUP,
     bPIEUP-SSANGSIOS,bPIEUP-SIOS-CIEUC,bPIEUP-CIEUC,bPIEUP-CHIEUCH,bPIEUP-THIEUTH,bPIEUP-PHIEUPH,
     bKAPYEOUNPIEUP,bKAPYEOUNSSANGPIEUP,bSIOS-KIYEOK,bSIOS-NIEUN,bSIOS-TIKEUT,bSIOS-RIEUL,
     bSIOS-MIEUM,bSIOS-PIEUP,bSIOS-PIEUP-KIYEOK,bSIOS-SSANGSIOS,bSIOS-IEUNG,bSIOS-CIEUC,
     bSIOS-CHIEUCH,bSIOS-KHIEUKH,bSIOS-THIEUTH,bSIOS-PHIEUPH,bSIOS-HIEUH,bCHITUEUMSIOS,
     bCHITUEUMSSANGSIOS,bCEONGCHIEUMSIOS,bCEONGCHIEUMSSANGSIOS,bPANSIOS,bIEUNG-KIYEOK,bIEUNG-TIKEUT,
     bIEUNG-MIEUM,bIEUNG-PIEUP,bIEUNG-SIOS,bIEUNG-PANSIOS,bSSANGIEUNG,bIEUNG-CIEUC,bIEUNG-CHIEUCH,
     bIEUNG-THIEUTH,bIEUNG-PHIEUPH,bYESIEUNG,bCIEUC-IEUNG,bCHITUEUMCIEUC,bCHITUEUMSSANGCIEUC,
     bCEONGCHIEUMCIEUC,bCEONGCHIEUMSSANGCIEUC,bCHIEUCH-KHIEUKH,bCHIEUCH-HIEUH,bCHITUEUMCHIEUCH,
     bCEONGCHIEUMCHIEUCH,bPHIEUPH-PIEUP,bKAPYEOUNPHIEUPH,bSSANGHIEUH,bYEORINHIEUH,bKIYEOK-TIKEUT,
     bNIEUN-SIOS,bNIEUN-CIEUC,bNIEUN-HIEUH,bTIKEUT-RIEUL,bFILLER,aJUNGSEONG FILLER,bA,bAE,bYA,bYAE,
     bEO,bE,bYEO,bYE,bO,bWA,bWAE,bOE,bYO,bU,bWEO,bWE,bWI,bYU,bEU,bYI,bI,bA-O,bA-U,bYA-O,bYA-YO,
     bEO-O,bEO-U,bEO-EU,bYEO-O,bYEO-U,bO-EO,bO-E,bO-YE,bO-O,bO-U,bYO-YA,bYO-YAE,bYO-YEO,bYO-O,bYO-I,
     bU-A,bU-AE,bU-EO-EU,bU-YE,bU-U,bYU-A,bYU-EO,bYU-E,bYU-YEO,bYU-YE,bYU-U,bYU-I,bEU-U,bEU-EU,
     bYI-U,bI-A,bI-YA,bI-O,bI-U,bI-EU,bI-ARAEA,bARAEA,bARAEA-EO,bARAEA-U,bARAEA-I,bSSANGARAEA,bA-EU,
     bYA-U,bYEO-YA,bO-YA,bO-YAE,aJONGSEONG KIYEOK,bSSANGKIYEOK,bKIYEOK-SIOS,bNIEUN,bNIEUN-CIEUC,
     bNIEUN-HIEUH,bTIKEUT,bRIEUL,bRIEUL-KIYEOK,bRIEUL-MIEUM,bRIEUL-PIEUP,bRIEUL-SIOS,bRIEUL-THIEUTH,
     bRIEUL-PHIEUPH,bRIEUL-HIEUH,bMIEUM,bPIEUP,bPIEUP-SIOS,bSIOS,bSSANGSIOS,bIEUNG,bCIEUC,bCHIEUCH,
     bKHIEUKH,bTHIEUTH,bPHIEUPH,bHIEUH,bKIYEOK-RIEUL,bKIYEOK-SIOS-KIYEOK,bNIEUN-KIYEOK,
     bNIEUN-TIKEUT,bNIEUN-SIOS,bNIEUN-PANSIOS,bNIEUN-THIEUTH,bTIKEUT-KIYEOK,bTIKEUT-RIEUL,
     bRIEUL-KIYEOK-SIOS,bRIEUL-NIEUN,bRIEUL-TIKEUT,bRIEUL-TIKEUT-HIEUH,bSSANGRIEUL,
     bRIEUL-MIEUM-KIYEOK,bRIEUL-MIEUM-SIOS,bRIEUL-PIEUP-SIOS,bRIEUL-PIEUP-HIEUH,
     bRIEUL-KAPYEOUNPIEUP,bRIEUL-SSANGSIOS,bRIEUL-PANSIOS,bRIEUL-KHIEUKH,bRIEUL-YEORINHIEUH,
     bMIEUM-KIYEOK,bMIEUM-RIEUL,bMIEUM-PIEUP,bMIEUM-SIOS,bMIEUM-SSANGSIOS,bMIEUM-PANSIOS,
     bMIEUM-CHIEUCH,bMIEUM-HIEUH,bKAPYEOUNMIEUM,bPIEUP-RIEUL,bPIEUP-PHIEUPH,bPIEUP-HIEUH,
     bKAPYEOUNPIEUP,bSIOS-KIYEOK,bSIOS-TIKEUT,bSIOS-RIEUL,bSIOS-PIEUP,bPANSIOS,bIEUNG-KIYEOK,
     bIEUNG-SSANGKIYEOK,bSSANGIEUNG,bIEUNG-KHIEUKH,bYESIEUNG,bYESIEUNG-SIOS,bYESIEUNG-PANSIOS,
     bPHIEUPH-PIEUP,bKAPYEOUNPHIEUPH,bHIEUH-NIEUN,bHIEUH-RIEUL,bHIEUH-MIEUM,bHIEUH-PIEUP,
     bYEORINHIEUH,bKIYEOK-NIEUN,bKIYEOK-PIEUP,bKIYEOK-CHIEUCH,bKIYEOK-KHIEUKH,bKIYEOK-HIEUH,
     bSSANGNIEUN,ETHIOPIC SYLLABLE HA,bHU,bHI,bHAA,bHEE,bHE,bHO,bHOA,bLA,bLU,bLI,bLAA,bLEE,bLE,bLO,
     bLWA,bHHA,bHHU,bHHI,bHHAA,bHHEE,bHHE,bHHO,bHHWA,bMA,bMU,bMI,bMAA,bMEE,bME,bMO,bMWA,bSZA,bSZU,
     bSZI,bSZAA,bSZEE,bSZE,bSZO,bSZWA,bRA,bRU,bRI,bRAA,bREE,bRE,bRO,bRWA,bSA,bSU,bSI,bSAA,bSEE,bSE,
     bSO,bSWA,bSHA,bSHU,bSHI,bSHAA,bSHEE,bSHE,bSHO,bSHWA,bQA,bQU,bQI,bQAA,bQEE,bQE,bQO,bQOA,bQWA,,
     bQWI,bQWAA,bQWEE,bQWE,,,bQHA,bQHU,bQHI,bQHAA,bQHEE,bQHE,bQHO,,bQHWA,,bQHWI,bQHWAA,bQHWEE,bQHWE,
     ,,bBA,bBU,bBI,bBAA,bBEE,bBE,bBO,bBWA,bVA,bVU,bVI,bVAA,bVEE,bVE,bVO,bVWA,bTA,bTU,bTI,bTAA,bTEE,
     bTE,bTO,bTWA,bCA,bCU,bCI,bCAA,bCEE,bCE,bCO,bCWA,bXA,bXU,bXI,bXAA,bXEE,bXE,bXO,bXOA,bXWA,,bXWI,
     bXWAA,bXWEE,bXWE,,,bNA,bNU,bNI,bNAA,bNEE,bNE,bNO,bNWA,bNYA,bNYU,bNYI,bNYAA,bNYEE,bNYE,bNYO,
     bNYWA,bGLOTTAL A,cU,cI,cAA,cEE,cE,cO,cWA,bKA,bKU,bKI,bKAA,bKEE,bKE,bKO,bKOA,bKWA,,bKWI,bKWAA,
     bKWEE,bKWE,,,bKXA,bKXU,bKXI,bKXAA,bKXEE,bKXE,bKXO,,bKXWA,,bKXWI,bKXWAA,bKXWEE,bKXWE,,,bWA,bWU,
     bWI,bWAA,bWEE,bWE,bWO,bWOA,bPHARYNGEAL A,cU,cI,cAA,cEE,cE,cO,,bZA,bZU,bZI,bZAA,bZEE,bZE,bZO,
     bZWA,bZHA,bZHU,bZHI,bZHAA,bZHEE,bZHE,bZHO,bZHWA,bYA,bYU,bYI,bYAA,bYEE,bYE,bYO,bYOA,bDA,bDU,bDI,
     bDAA,bDEE,bDE,bDO,bDWA,bDDA,bDDU,bDDI,bDDAA,bDDEE,bDDE,bDDO,bDDWA,bJA,bJU,bJI,bJAA,bJEE,bJE,
     bJO,bJWA,bGA,bGU,bGI,bGAA,bGEE,bGE,bGO,bGOA,bGWA,,bGWI,bGWAA,bGWEE,bGWE,,,bGGA,bGGU,bGGI,bGGAA,
     bGGEE,bGGE,bGGO,bGGWAA,bTHA,bTHU,bTHI,bTHAA,bTHEE,bTHE,bTHO,bTHWA,bCHA,bCHU,bCHI,bCHAA,bCHEE,
     bCHE,bCHO,bCHWA,bPHA,bPHU,bPHI,bPHAA,bPHEE,bPHE,bPHO,bPHWA,bTSA,bTSU,bTSI,bTSAA,bTSEE,bTSE,
     bTSO,bTSWA,bTZA,bTZU,bTZI,bTZAA,bTZEE,bTZE,bTZO,bTZOA,bFA,bFU,bFI,bFAA,bFEE,bFE,bFO,bFWA,bPA,
     bPU,bPI,bPAA,bPEE,bPE,bPO,bPWA,bRYA,bMYA,bFYA,,,aCOMBINING GEMINATION AND VOWEL LENGTH MARK,
     bVOWEL LENGTH MARK,bGEMINATION MARK,aSECTION MARK,aWORDSPACE,aFULL STOP,aCOMMA,aSEMICOLON,
     aCOLON,aPREFACE COLON,aQUESTION MARK,aPARAGRAPH SEPARATOR,aDIGIT ONE,bTWO,bTHREE,bFOUR,bFIVE,
     bSIX,bSEVEN,bEIGHT,bNINE,aNUMBER TEN,bTWENTY,bTHIRTY,bFORTY,bFIFTY,bSIXTY,bSEVENTY,bEIGHTY,
     bNINETY,bHUNDRED,bTEN THOUSAND,,,,aSYLLABLE SEBATBEIT MWA,bMWI,bMWEE,bMWE,bSEBATBEIT BWA,bBWI,
     bBWEE,bBWE,bSEBATBEIT FWA,bFWI,bFWEE,bFWE,bSEBATBEIT PWA,bPWI,bPWEE,bPWE,aTONAL MARK YIZET,
     cDERET,cRIKRIK,cSHORT RIKRIK,cDIFAT,cKENAT,cCHIRET,cHIDET,cDERET-HIDET,cKURT,,,,,,,
     CHEROKEE LETTER A,bE,bI,bO,bU,bV,bGA,bKA,bGE,bGI,bGO,bGU,bGV,bHA,bHE,bHI,bHO,bHU,bHV,bLA,bLE,
     bLI,bLO,bLU,bLV,bMA,bME,bMI,bMO,bMU,bNA,bHNA,bNAH,bNE,bNI,bNO,bNU,bNV,bQUA,bQUE,bQUI,bQUO,bQUU,
     bQUV,bSA,bS,bSE,bSI,bSO,bSU,bSV,bDA,bTA,bDE,bTE,bDI,bTI,bDO,bDU,bDV,bDLA,bTLA,bTLE,bTLI,bTLO,
     bTLU,bTLV,bTSA,bTSE,bTSI,bTSO,bTSU,bTSV,bWA,bWE,bWI,bWO,bWU,bWV,bYA,bYE,bYI,bYO,bYU,bYV,bMV,,,
     aSMALL LETTER YE,cYI,cYO,cYU,cYV,cMV,,,CANADIAN SYLLABICS HYPHEN,bE,bAAI,bI,bII,bO,bOO,
     bY-CREE OO,bCARRIER EE,cI,bA,bAA,bWE,bWEST-CREE WE,bWI,bWEST-CREE WI,bWII,bWEST-CREE WII,bWO,
     bWEST-CREE WO,bWOO,bWEST-CREE WOO,bNASKAPI WOO,bWA,bWEST-CREE WA,bWAA,bWEST-CREE WAA,
     bNASKAPI WAA,bAI,bY-CREE W,bGLOTTAL STOP,bFINAL ACUTE,cGRAVE,cBOTTOM HALF RING,cTOP HALF RING,
     cRIGHT HALF RING,cRING,cDOUBLE ACUTE,dSHORT VERTICAL STROKES,cMIDDLE DOT,
     cSHORT HORIZONTAL STROKE,cPLUS,cDOWN TACK,bEN,bIN,bON,bAN,bPE,bPAAI,bPI,bPII,bPO,bPOO,
     bY-CREE POO,bCARRIER HEE,cHI,bPA,bPAA,bPWE,bWEST-CREE PWE,bPWI,bWEST-CREE PWI,bPWII,
     bWEST-CREE PWII,bPWO,bWEST-CREE PWO,bPWOO,bWEST-CREE PWOO,bPWA,bWEST-CREE PWA,bPWAA,
     bWEST-CREE PWAA,bY-CREE PWAA,bP,bWEST-CREE P,bCARRIER H,bTE,bTAAI,bTI,bTII,bTO,bTOO,
     bY-CREE TOO,bCARRIER DEE,cDI,bTA,bTAA,bTWE,bWEST-CREE TWE,bTWI,bWEST-CREE TWI,bTWII,
     bWEST-CREE TWII,bTWO,bWEST-CREE TWO,bTWOO,bWEST-CREE TWOO,bTWA,bWEST-CREE TWA,bTWAA,
     bWEST-CREE TWAA,bNASKAPI TWAA,bT,bTTE,bTTI,bTTO,bTTA,bKE,bKAAI,bKI,bKII,bKO,bKOO,bY-CREE KOO,
     bKA,bKAA,bKWE,bWEST-CREE KWE,bKWI,bWEST-CREE KWI,bKWII,bWEST-CREE KWII,bKWO,bWEST-CREE KWO,
     bKWOO,bWEST-CREE KWOO,bKWA,bWEST-CREE KWA,bKWAA,bWEST-CREE KWAA,bNASKAPI KWAA,bK,bKW,
     bSOUTH-SLAVEY KEH,cKIH,cKOH,cKAH,bCE,bCAAI,bCI,bCII,bCO,bCOO,bY-CREE COO,bCA,bCAA,bCWE,
     bWEST-CREE CWE,bCWI,bWEST-CREE CWI,bCWII,bWEST-CREE CWII,bCWO,bWEST-CREE CWO,bCWOO,
     bWEST-CREE CWOO,bCWA,bWEST-CREE CWA,bCWAA,bWEST-CREE CWAA,bNASKAPI CWAA,bC,bSAYISI TH,bME,
     bMAAI,bMI,bMII,bMO,bMOO,bY-CREE MOO,bMA,bMAA,bMWE,bWEST-CREE MWE,bMWI,bWEST-CREE MWI,bMWII,
     bWEST-CREE MWII,bMWO,bWEST-CREE MWO,bMWOO,bWEST-CREE MWOO,bMWA,bWEST-CREE MWA,bMWAA,
     bWEST-CREE MWAA,bNASKAPI MWAA,bM,bWEST-CREE M,bMH,bATHAPASCAN M,bSAYISI M,bNE,bNAAI,bNI,bNII,
     bNO,bNOO,bY-CREE NOO,bNA,bNAA,bNWE,bWEST-CREE NWE,bNWA,bWEST-CREE NWA,bNWAA,bWEST-CREE NWAA,
     bNASKAPI NWAA,bN,bCARRIER NG,bNH,bLE,bLAAI,bLI,bLII,bLO,bLOO,bY-CREE LOO,bLA,bLAA,bLWE,
     bWEST-CREE LWE,bLWI,bWEST-CREE LWI,bLWII,bWEST-CREE LWII,bLWO,bWEST-CREE LWO,bLWOO,
     bWEST-CREE LWOO,bLWA,bWEST-CREE LWA,bLWAA,bWEST-CREE LWAA,bL,bWEST-CREE L,bMEDIAL L,bSE,bSAAI,
     bSI,bSII,bSO,bSOO,bY-CREE SOO,bSA,bSAA,bSWE,bWEST-CREE SWE,bSWI,bWEST-CREE SWI,bSWII,
     bWEST-CREE SWII,bSWO,bWEST-CREE SWO,bSWOO,bWEST-CREE SWOO,bSWA,bWEST-CREE SWA,bSWAA,
     bWEST-CREE SWAA,bNASKAPI SWAA,bS,bATHAPASCAN S,bSW,bBLACKFOOT S,bMOOSE-CREE SK,bNASKAPI SKW,
     cS-W,cSPWA,cSTWA,cSKWA,cSCWA,bSHE,bSHI,bSHII,bSHO,bSHOO,bSHA,bSHAA,bSHWE,bWEST-CREE SHWE,bSHWI,
     bWEST-CREE SHWI,bSHWII,bWEST-CREE SHWII,bSHWO,bWEST-CREE SHWO,bSHWOO,bWEST-CREE SHWOO,bSHWA,
     bWEST-CREE SHWA,bSHWAA,bWEST-CREE SHWAA,bSH,bYE,bYAAI,bYI,bYII,bYO,bYOO,bY-CREE YOO,bYA,bYAA,
     bYWE,bWEST-CREE YWE,bYWI,bWEST-CREE YWI,bYWII,bWEST-CREE YWII,bYWO,bWEST-CREE YWO,bYWOO,
     bWEST-CREE YWOO,bYWA,bWEST-CREE YWA,bYWAA,bWEST-CREE YWAA,bNASKAPI YWAA,bY,bBIBLE-CREE Y,
     bWEST-CREE Y,bSAYISI YI,bRE,bR-CREE RE,bWEST-CREE LE,bRAAI,bRI,bRII,bRO,bROO,bWEST-CREE LO,bRA,
     bRAA,bWEST-CREE LA,bRWAA,bWEST-CREE RWAA,bR,bWEST-CREE R,bMEDIAL R,bFE,bFAAI,bFI,bFII,bFO,bFOO,
     bFA,bFAA,bFWAA,bWEST-CREE FWAA,bF,bTHE,bN-CREE THE,bTHI,bN-CREE THI,bTHII,bN-CREE THII,bTHO,
     bTHOO,bTHA,bTHAA,bTHWAA,bWEST-CREE THWAA,bTH,bTTHE,bTTHI,bTTHO,bTTHA,bTTH,bTYE,bTYI,bTYO,bTYA,
     bNUNAVIK HE,cHI,cHII,cHO,cHOO,cHA,cHAA,cH,bNUNAVUT H,bHK,bQAAI,bQI,bQII,bQO,bQOO,bQA,bQAA,bQ,
     bTLHE,bTLHI,bTLHO,bTLHA,bWEST-CREE RE,cRI,cRO,cRA,bNGAAI,bNGI,bNGII,bNGO,bNGOO,bNGA,bNGAA,bNG,
     bNNG,bSAYISI SHE,cSHI,cSHO,cSHA,bWOODS-CREE THE,cTHI,cTHO,cTHA,cTH,bLHI,bLHII,bLHO,bLHOO,bLHA,
     bLHAA,bLH,bTH-CREE THE,cTHI,cTHII,cTHO,cTHOO,cTHA,cTHAA,cTH,bAIVILIK B,bBLACKFOOT E,cI,cO,cA,
     cWE,cWI,cWO,cWA,cNE,cNI,cNO,cNA,cKE,cKI,cKO,cKA,bSAYISI HE,cHI,cHO,cHA,bCARRIER GHU,cGHO,cGHE,
     cGHEE,cGHI,cGHA,cRU,cRO,cRE,cREE,cRI,cRA,cWU,cWO,cWE,cWEE,cWI,cWA,cHWU,cHWO,cHWE,cHWEE,cHWI,
     cHWA,cTHU,cTHO,cTHE,cTHEE,cTHI,cTHA,cTTU,cTTO,cTTE,cTTEE,cTTI,cTTA,cPU,cPO,cPE,cPEE,cPI,cPA,cP,
     cGU,cGO,cGE,cGEE,cGI,cGA,cKHU,cKHO,cKHE,cKHEE,cKHI,cKHA,cKKU,cKKO,cKKE,cKKEE,cKKI,cKKA,cKK,cNU,
     cNO,cNE,cNEE,cNI,cNA,cMU,cMO,cME,cMEE,cMI,cMA,cYU,cYO,cYE,cYEE,cYI,cYA,cJU,bSAYISI JU,
     bCARRIER JO,cJE,cJEE,cJI,bSAYISI JI,bCARRIER JA,cJJU,cJJO,cJJE,cJJEE,cJJI,cJJA,cLU,cLO,cLE,
     cLEE,cLI,cLA,cDLU,cDLO,cDLE,cDLEE,cDLI,cDLA,cLHU,cLHO,cLHE,cLHEE,cLHI,cLHA,cTLHU,cTLHO,cTLHE,
     cTLHEE,cTLHI,cTLHA,cTLU,cTLO,cTLE,cTLEE,cTLI,cTLA,cZU,cZO,cZE,cZEE,cZI,cZA,cZ,cINITIAL Z,cDZU,
     cDZO,cDZE,cDZEE,cDZI,cDZA,cSU,cSO,cSE,cSEE,cSI,cSA,cSHU,cSHO,cSHE,cSHEE,cSHI,cSHA,cSH,cTSU,
     cTSO,cTSE,cTSEE,cTSI,cTSA,cCHU,cCHO,cCHE,cCHEE,cCHI,cCHA,cTTSU,cTTSO,cTTSE,cTTSEE,cTTSI,cTTSA,
     bCHI SIGN,bFULL STOP,bQAI,bNGAI,bNNGI,bNNGII,bNNGO,bNNGOO,bNNGA,bNNGAA,bWOODS-CREE THWEE,cTHWI,
     cTHWII,cTHWO,cTHWOO,cTHWA,cTHWAA,cFINAL TH,bBLACKFOOT W,OGHAM SPACE MARK,aLETTER BEITH,bLUIS,
     bFEARN,bSAIL,bNION,bUATH,bDAIR,bTINNE,bCOLL,bCEIRT,bMUIN,bGORT,bNGEADAL,bSTRAIF,bRUIS,bAILM,
     bONN,bUR,bEADHADH,bIODHADH,bEABHADH,bOR,bUILLEANN,bIFIN,bEAMHANCHOLL,bPEITH,aFEATHER MARK,
     aREVERSED FEATHER MARK,,,,RUNIC LETTER FEHU FEOH FE F,bV,bURUZ UR U,bYR,bY,bW,
     bTHURISAZ THURS THORN,bETH,bANSUZ A,bOS O,bAC A,bAESC,bLONG-BRANCH-OSS O,bSHORT-TWIG-OSS O,bO,
     bOE,bON,bRAIDO RAD REID R,bKAUNA,bCEN,bKAUN K,bG,bENG,bGEBO GYFU G,bGAR,bWUNJO WYNN W,
     bHAGLAZ H,bHAEGL H,bLONG-BRANCH-HAGALL H,bSHORT-TWIG-HAGALL H,bNAUDIZ NYD NAUD N,
     bSHORT-TWIG-NAUD N,bDOTTED-N,bISAZ IS ISS I,bE,bJERAN J,bGER,bLONG-BRANCH-AR AE,
     bSHORT-TWIG-AR A,bIWAZ EOH,bPERTHO PEORTH P,bALGIZ EOLHX,bSOWILO S,bSIGEL LONG-BRANCH-SOL S,
     bSHORT-TWIG-SOL S,bC,bZ,bTIWAZ TIR TYR T,bSHORT-TWIG-TYR T,bD,bBERKANAN BEORC BJARKAN B,
     bSHORT-TWIG-BJARKAN B,bDOTTED-P,bOPEN-P,bEHWAZ EH E,bMANNAZ MAN M,bLONG-BRANCH-MADR M,
     bSHORT-TWIG-MADR M,bLAUKAZ LAGU LOGR L,bDOTTED-L,bINGWAZ,bING,bDAGAZ DAEG D,bOTHALAN ETHEL O,
     bEAR,bIOR,bCWEORTH,bCALC,bCEALC,bSTAN,bLONG-BRANCH-YR,bSHORT-TWIG-YR,bICELANDIC-YR,bQ,bX,
     aSINGLE PUNCTUATION,aMULTIPLE PUNCTUATION,aCROSS PUNCTUATION,aARLAUG SYMBOL,aTVIMADUR SYMBOL,
     aBELGTHOR SYMBOL,aLETTER K,bSH,bOO,bFRANKS CASKET OS,dIS,dEH,dAC,dAESC,,,,,,,,TAGALOG LETTER A,
     bI,bU,bKA,bGA,bNGA,bTA,bDA,bNA,bPA,bBA,bMA,bYA,bRA,bLA,bWA,bSA,bHA,aVOWEL SIGN I,cU,
     aSIGN VIRAMA,bPAMUDPOD"),
   (0x171f, "TAGALOG LETTER ARCHAIC RA,HANUNOO LETTER A,bI,bU,bKA,bGA,bNGA,bTA,bDA,bNA,bPA,bBA,bMA,
     bYA,bRA,bLA,bWA,bSA,bHA,aVOWEL SIGN I,cU,aSIGN PAMUDPOD,PHILIPPINE SINGLE PUNCTUATION,
     aDOUBLE PUNCTUATION"),
   (0x1740, "BUHID LETTER A,bI,bU,bKA,bGA,bNGA,bTA,bDA,bNA,bPA,bBA,bMA,bYA,bRA,bLA,bWA,bSA,bHA,
     aVOWEL SIGN I,cU"),
   (0x1760, "TAGBANWA LETTER A,bI,bU,bKA,bGA,bNGA,bTA,bDA,bNA,bPA,bBA,bMA,bYA,,bLA,bWA,bSA,,
     aVOWEL SIGN I,cU"),
   (0x1780, "KHMER LETTER KA,bKHA,bKO,bKHO,bNGO,bCA,bCHA,bCO,bCHO,bNYO,bDA,bTTHA,bDO,bTTHO,bNNO,bTA,
     bTHA,bTO,bTHO,bNO,bBA,bPHA,bPO,bPHO,bMO,bYO,bRO,bLO,bVO,bSHA,bSSO,bSA,bHA,bLA,bQA,
     aINDEPENDENT VOWEL QAQ,cQAA,cQI,cQII,cQU,cQUK,cQUU,cQUUV,cRY,cRYY,cLY,cLYY,cQE,cQAI,
     cQOO TYPE ONE,eTWO,cQAU,aVOWEL INHERENT AQ,cAA,bSIGN AA,cI,cII,cY,cYY,cU,cUU,cUA,cOE,cYA,cIE,
     cE,cAE,cAI,cOO,cAU,aSIGN NIKAHIT,bREAHMUK,bYUUKALEAPINTU,bMUUSIKATOAN,bTRIISAP,bBANTOC,bROBAT,
     bTOANDAKHIAT,bKAKABAT,bAHSDA,bSAMYOK SANNYA,bVIRIAM,bCOENG,bBATHAMASAT,bKHAN,bBARIYOOSAN,
     bCAMNUC PII KUUH,bLEK TOO,bBEYYAL,bPHNAEK MUAN,bKOOMUUT,aCURRENCY SYMBOL RIEL,
     aSIGN AVAKRAHASANYA,bATTHACAN,,,aDIGIT ZERO,bONE,bTWO,bTHREE,bFOUR,bFIVE,bSIX,bSEVEN,bEIGHT,
     bNINE,,,,,,,aSYMBOL LEK ATTAK SON,dMUOY,dPII,dBEI,dBUON,dPRAM,dPRAM-MUOY,dPRAM-PII,dPRAM-BEI,
     dPRAM-BUON,,,,,,,MONGOLIAN BIRGA,aELLIPSIS,aCOMMA,aFULL STOP,aCOLON,aFOUR DOTS,
     aTODO SOFT HYPHEN,aSIBE SYLLABLE BOUNDARY MARKER,aMANCHU COMMA,bFULL STOP,aNIRUGU,
     aFREE VARIATION SELECTOR ONE,dTWO,dTHREE,aVOWEL SEPARATOR,aFREE VARIATION SELECTOR FOUR,
     aDIGIT ZERO,bONE,bTWO,bTHREE,bFOUR,bFIVE,bSIX,bSEVEN,bEIGHT,bNINE,,,,,,,aLETTER A,bE,bI,bO,bU,
     bOE,bUE,bEE,bNA,bANG,bBA,bPA,bQA,bGA,bMA,bLA,bSA,bSHA,bTA,bDA,bCHA,bJA,bYA,bRA,bWA,bFA,bKA,
     bKHA,bTSA,bZA,bHAA,bZRA,bLHA,bZHI,bCHI,bTODO LONG VOWEL SIGN,cE,cI,cO,cU,cOE,cUE,cANG,cBA,cPA,
     cQA,cGA,cMA,cTA,cDA,cCHA,cJA,cTSA,cYA,cWA,cKA,cGAA,cHAA,cJIA,cNIA,cDZA,bSIBE E,cI,cIY,cUE,cU,
     cANG,cKA,cGA,cHA,cPA,cSHA,cTA,cDA,cJA,cFA,cGAA,cHAA,cTSA,cZA,cRAA,cCHA,cZHA,bMANCHU I,cKA,cRA,
     cFA,cZHA,bCHA WITH TWO DOTS,,,,,,,,bALI GALI ANUSVARA ONE,dVISARGA ONE,dDAMARU,dUBADAMA,
     dINVERTED UBADAMA,dBALUDA,dTHREE BALUDA,dA,dI,dKA,dNGA,dCA,dTTA,dTTHA,dDDA,dNNA,dTA,dDA,dPA,
     dPHA,dSSA,dZHA,dZA,dAH,bTODO ALI GALI TA,eZHA,bMANCHU ALI GALI GHA,eNGA,eCA,eJHA,eTTA,eDDHA,
     eTA,eDHA,eSSA,eCYA,eZHA,eZA,bALI GALI HALF U,eYA,bMANCHU ALI GALI BHA,bALI GALI DAGALGA,
     bMANCHU ALI GALI LHA,,,,,,CANADIAN SYLLABICS OY,bAY,bAAY,bWAY,bPOY,bPAY,bPWOY,bTAY,bKAY,bKWAY,
     bMAY,bNOY,bNAY,bLAY,bSOY,bSAY,bSHOY,bSHAY,bSHWOY,bYOY,bYAY,bRAY,bNWI,bOJIBWAY NWI,bNWII,
     bOJIBWAY NWII,bNWO,bOJIBWAY NWO,bNWOO,bOJIBWAY NWOO,bRWEE,bRWI,bRWII,bRWO,bRWOO,bRWA,
     bOJIBWAY P,cT,cK,cC,cM,cN,cS,cSH,bEASTERN W,bWESTERN W,bFINAL SMALL RING,cRAISED DOT,
     bR-CREE RWE,bWEST-CREE LOO,cLAA,bTHWE,bTHWA,bTTHWE,bTTHOO,bTTHAA,bTLHWE,bTLHOO,bSAYISI SHWE,
     cSHOO,cHOO,bCARRIER GWU,cDENE GEE,cGAA,cGWA,bSAYISI JUU,bCARRIER JWA,bBEAVER DENE L,dR,
     bCARRIER DENTAL S"),
   (0x1900, "LIMBU VOWEL-CARRIER LETTER,aLETTER KA,bKHA,bGA,bGHA,bNGA,bCA,bCHA,bJA,bJHA,bYAN,bTA,
     bTHA,bDA,bDHA,bNA,bPA,bPHA,bBA,bBHA,bMA,bYA,bRA,bLA,bWA,bSHA,bSSA,bSA,bHA,bGYAN,bTRA,,
     aVOWEL SIGN A,cI,cU,cEE,cAI,cOO,cAU,cE,cO,aSUBJOINED LETTER YA,cRA,cWA,,,,,aSMALL LETTER KA,
     cNGA,cANUSVARA,cTA,cNA,cPA,cMA,cRA,cLA,aSIGN MUKPHRENG,bKEMPHRENG,bSA-I,,,,,bLOO,,,,
     aEXCLAMATION MARK,aQUESTION MARK,aDIGIT ZERO,bONE,bTWO,bTHREE,bFOUR,bFIVE,bSIX,bSEVEN,bEIGHT,
     bNINE,TAI LE LETTER KA,cXA,cNGA,cTSA,cSA,cYA,cTA,cTHA,cLA,cPA,cPHA,cMA,cFA,cVA,cHA,cQA,cKHA,
     cTSHA,cNA,cA,cI,cEE,cEH,cU,cOO,cO,cUE,cE,cAUE,cAI,,,cTONE-2,cTONE-3,cTONE-4,cTONE-5,cTONE-6"),
   (0x1980, "NEW TAI LUE LETTER HIGH QA,dLOW QA,dHIGH KA,eXA,eNGA,dLOW KA,eXA,eNGA,dHIGH TSA,eSA,
     eYA,dLOW TSA,eSA,eYA,dHIGH TA,eTHA,eNA,dLOW TA,eTHA,eNA,dHIGH PA,ePHA,eMA,dLOW PA,ePHA,eMA,
     dHIGH FA,eVA,eLA,dLOW FA,eVA,eLA,dHIGH HA,eDA,eBA,dLOW HA,eDA,eBA,dHIGH KVA,eXVA,dLOW KVA,eXVA,
     dHIGH SUA,dLOW SUA,,,,,cVOWEL SIGN VOWEL SHORTENER,eAA,eII,eU,eUU,eE,eAE,eO,eOA,eUE,eAY,eAAY,
     eUY,eOY,eOAY,eUEY,eIY,cLETTER FINAL V,eNG,eN,eM,eK,eD,eB,cTONE MARK-1,dMARK-2,,,,,,,
     cDIGIT ZERO,dONE,dTWO,dTHREE,dFOUR,dFIVE,dSIX,dSEVEN,dEIGHT,dNINE,cTHAM DIGIT ONE,,,,cSIGN LAE,
     dLAEV,KHMER SYMBOL PATHAMASAT,bMUOY KOET,bPII KOET,bBEI KOET,bBUON KOET,bPRAM KOET,
     bPRAM-MUOY KOET,bPRAM-PII KOET,bPRAM-BEI KOET,bPRAM-BUON KOET,bDAP KOET,bDAP-MUOY KOET,
     bDAP-PII KOET,bDAP-BEI KOET,bDAP-BUON KOET,bDAP-PRAM KOET,bTUTEYASAT,bMUOY ROC,bPII ROC,
     bBEI ROC,bBUON ROC,bPRAM ROC,bPRAM-MUOY ROC,bPRAM-PII ROC,bPRAM-BEI ROC,bPRAM-BUON ROC,
     bDAP ROC,bDAP-MUOY ROC,bDAP-PII ROC,bDAP-BEI ROC,bDAP-BUON ROC,bDAP-PRAM ROC,
     BUGINESE LETTER KA,bGA,bNGA,bNGKA,bPA,bBA,bMA,bMPA,bTA,bDA,bNA,bNRA,bCA,bJA,bNYA,bNYCA,bYA,bRA,
     bLA,bVA,bSA,bA,bHA,aVOWEL SIGN I,cU,cE,cO,cAE,,,aPALLAWA,aEND OF SECTION,
     TAI THAM LETTER HIGH KA,dKHA,dKXA,cLOW KA,dKXA,dKHA,cNGA,cHIGH CA,dCHA,cLOW CA,dSA,dCHA,cNYA,
     cRATA,cHIGH RATHA,cDA,cLOW RATHA,cRANA,cHIGH TA,dTHA,cLOW TA,dTHA,cNA,cBA,cHIGH PA,dPHA,dFA,
     cLOW PA,dFA,dPHA,cMA,cLOW YA,cHIGH YA,cRA,cRUE,cLA,cLUE,cWA,cHIGH SHA,dSSA,dSA,dHA,cLLA,cA,
     cLOW HA,cI,cII,cU,cUU,cEE,cOO,cLAE,cGREAT SA,bCONSONANT SIGN MEDIAL RA,eLA,dLA TANG LAI,
     bSIGN MAI KANG LAI,bCONSONANT SIGN FINAL NGA,dLOW PA,dHIGH RATHA OR LOW PA,dMA,dBA,dSA,,
     bSIGN SAKOT,bVOWEL SIGN A,dMAI SAT,dAA,dTALL AA,dI,dII,dUE,dUUE,dU,dUU,dO,dOA BELOW,dOY,dE,dAE,
     dOO,dAI,dTHAM AI,dOA ABOVE,bSIGN MAI KANG,cTONE-1,cTONE-2,cKHUEN TONE-3,dTONE-4,dTONE-5,
     cRA HAAM,cMAI SAM,cKHUEN-LUE KARAN,,,bCOMBINING CRYPTOGRAMMIC DOT,bHORA DIGIT ZERO,dONE,dTWO,
     dTHREE,dFOUR,dFIVE,dSIX,dSEVEN,dEIGHT,dNINE,,,,,,,bTHAM DIGIT ZERO,dONE,dTWO,dTHREE,dFOUR,
     dFIVE,dSIX,dSEVEN,dEIGHT,dNINE,,,,,,,bSIGN WIANG,cWIANGWAAK,cSAWAN,cKEOW,cHOY,cDOKMAI,
     cREVERSED ROTATED RANA,cMAI YAMOK,cKAAN,cKAANKUU,cSATKAAN,cSATKAANKUU,cHANG,cCAANG,,,
     COMBINING DOUBLED CIRCUMFLEX ACCENT,aDIAERESIS-RING,aINFINITY,aDOWNWARDS ARROW,aTRIPLE DOT,
     aX-X BELOW,aWIGGLY LINE BELOW,aOPEN MARK BELOW,aDOUBLE OPEN MARK BELOW,
     aLIGHT CENTRALIZATION STROKE BELOW,aSTRONG CENTRALIZATION STROKE BELOW,aPARENTHESES ABOVE,
     aDOUBLE PARENTHESES ABOVE,aPARENTHESES BELOW,bOVERLAY,aLATIN SMALL LETTER W BELOW,
     dTURNED W BELOW,aLEFT PARENTHESIS ABOVE LEFT,aRIGHT PARENTHESIS ABOVE RIGHT,
     aLEFT PARENTHESIS BELOW LEFT,aRIGHT PARENTHESIS BELOW RIGHT,aSQUARE BRACKETS ABOVE,
     aNUMBER SIGN ABOVE,aINVERTED DOUBLE ARCH ABOVE,aPLUS SIGN ABOVE,aDOUBLE PLUS SIGN ABOVE,dBELOW,
     aTRIPLE ACUTE ACCENT,aLATIN SMALL LETTER INSULAR G,eR,eT"),
   (0x1b00, "BALINESE SIGN ULU RICEM,cCANDRA,bCECEK,bSURANG,bBISAH,aLETTER AKARA,cTEDUNG,bIKARA,
     cTEDUNG,bUKARA,cTEDUNG,bRA REPA,dTEDUNG,bLA LENGA,dTEDUNG,bEKARA,bAIKARA,bOKARA,cTEDUNG,bKA,
     cMAHAPRANA,bGA,cGORA,bNGA,bCA,cLACA,bJA,cJERA,bNYA,bTA LATIK,cMURDA MAHAPRANA,
     bDA MURDA ALPAPRANA,dMAHAPRANA,bNA RAMBAT,bTA,cTAWA,bDA,cMADU,bNA,bPA,cKAPAL,bBA,cKEMBANG,bMA,
     bYA,bRA,bLA,bWA,bSA SAGA,cSAPA,bSA,bHA,aSIGN REREKAN,aVOWEL SIGN TEDUNG,cULU,dSARI,cSUKU,dILUT,
     cRA REPA,eTEDUNG,cLA LENGA,eTEDUNG,cTALING,dREPA,dTEDUNG,dREPA TEDUNG,cPEPET,dTEDUNG,
     aADEG ADEG,aLETTER KAF SASAK,bKHOT SASAK,bTZIR SASAK,bEF SASAK,bVE SASAK,bZAL SASAK,
     bASYURA SASAK,bARCHAIC JNYA,,,,aDIGIT ZERO,bONE,bTWO,bTHREE,bFOUR,bFIVE,bSIX,bSEVEN,bEIGHT,
     bNINE,aPANTI,aPAMADA,aWINDU,aCARIK PAMUNGKAH,bSIKI,bPAREREN,aPAMENENG,aMUSICAL SYMBOL DONG,
     cDENG,cDUNG,cDANG,dSURANG,cDING,cDAENG,cDEUNG,cDAING,cDANG GEDE,cCOMBINING TEGEH,dENDEP,
     dKEMPUL,dKEMPLI,dJEGOGAN,dKEMPUL WITH JEGOGAN,dKEMPLI WITH JEGOGAN,dBENDE,dGONG,
     cRIGHT-HAND OPEN DUG,eDAG,dCLOSED TUK,eTAK,cLEFT-HAND OPEN PANG,ePUNG,dCLOSED PLAK,ePLUK,
     dOPEN PING,aPANTI LANTANG,aPAMADA LANTANG,,SUNDANESE SIGN PANYECEK,bPANGLAYAR,bPANGWISAD,
     aLETTER A,bI,bU,bAE,bO,bE,bEU,bKA,bQA,bGA,bNGA,bCA,bJA,bZA,bNYA,bTA,bDA,bNA,bPA,bFA,bVA,bBA,
     bMA,bYA,bRA,bLA,bWA,bSA,bXA,bHA,aCONSONANT SIGN PAMINGKAL,cPANYAKRA,cPANYIKU,
     aVOWEL SIGN PANGHULU,cPANYUKU,cPANAELAENG,cPANOLONG,cPAMEPET,cPANEULEUNG,aSIGN PAMAAEH,bVIRAMA,
     aCONSONANT SIGN PASANGAN MA,dWA,aLETTER KHA,bSYA,aDIGIT ZERO,bONE,bTWO,bTHREE,bFOUR,bFIVE,bSIX,
     bSEVEN,bEIGHT,bNINE,aAVAGRAHA,aLETTER REU,bLEU,bBHA,bFINAL K,cM,BATAK LETTER A,bSIMALUNGUN A,
     bHA,bSIMALUNGUN HA,bMANDAILING HA,bBA,bKARO BA,bPA,bSIMALUNGUN PA,bNA,bMANDAILING NA,bWA,
     bSIMALUNGUN WA,bPAKPAK WA,bGA,bSIMALUNGUN GA,bJA,bDA,bRA,bSIMALUNGUN RA,bMA,bSIMALUNGUN MA,
     bSOUTHERN TA,bNORTHERN TA,bSA,bSIMALUNGUN SA,bMANDAILING SA,bYA,bSIMALUNGUN YA,bNGA,bLA,
     bSIMALUNGUN LA,bNYA,bCA,bNDA,bMBA,bI,bU,aSIGN TOMPI,aVOWEL SIGN E,cPAKPAK E,cEE,cI,cKARO I,cO,
     cKARO O,cU,dFOR SIMALUNGUN SA,aCONSONANT SIGN NG,cH,aPANGOLAT,aPANONGONAN,,,,,,,,,
     aSYMBOL BINDU NA METEK,cPINARBORAS,cJUDUL,cPANGOLAT,LEPCHA LETTER KA,bKLA,bKHA,bGA,bGLA,bNGA,
     bCA,bCHA,bJA,bNYA,bTA,bTHA,bDA,bNA,bPA,bPLA,bPHA,bFA,bFLA,bBA,bBLA,bMA,bMLA,bTSA,bTSHA,bDZA,
     bYA,bRA,bLA,bHA,bHLA,bVA,bSA,bSHA,bWA,bA,aSUBJOINED LETTER YA,cRA,aVOWEL SIGN AA,cI,cO,cOO,cU,
     cUU,cE,aCONSONANT SIGN K,cM,cL,cN,cP,cR,cT,cNYIN-DO,cKANG,aSIGN RAN,bNUKTA,,,,
     aPUNCTUATION TA-ROL,bNYET THYOOM TA-ROL,bCER-WA,bTSHOOK CER-WA,bTSHOOK,aDIGIT ZERO,bONE,bTWO,
     bTHREE,bFOUR,bFIVE,bSIX,bSEVEN,bEIGHT,bNINE,,,,aLETTER TTA,bTTHA,bDDA,OL CHIKI DIGIT ZERO,cONE,
     cTWO,cTHREE,cFOUR,cFIVE,cSIX,cSEVEN,cEIGHT,cNINE,bLETTER LA,cAT,cAG,cANG,cAL,cLAA,cAAK,cAAJ,
     cAAM,cAAW,cLI,cIS,cIH,cINY,cIR,cLU,cUC,cUD,cUNN,cUY,cLE,cEP,cEDD,cEN,cERR,cLO,cOTT,cOB,cOV,cOH,
     bMU TTUDDAG,bGAAHLAA TTUDDAAG,bMU-GAAHLAA TTUDDAAG,bRELAA,bPHAARKAA,bAHAD,bPUNCTUATION MUCAAD,
     cDOUBLE MUCAAD,CYRILLIC SMALL LETTER ROUNDED VE,cLONG-LEGGED DE,cNARROW O,cWIDE ES,cTALL TE,
     cTHREE-LEGGED TE,cTALL HARD SIGN,dYAT,cUNBLENDED UK,,,,,,,,GEORGIAN MTAVRULI CAPITAL LETTER AN,
     dBAN,dGAN,dDON,dEN,dVIN,dZEN,dTAN,dIN,dKAN,dLAS,dMAN,dNAR,dON,dPAR,dZHAR,dRAE,dSAN,dTAR,dUN,
     dPHAR,dKHAR,dGHAN,dQAR,dSHIN,dCHIN,dCAN,dJIL,dCIL,dCHAR,dXAN,dJHAN,dHAE,dHE,dHIE,dWE,dHAR,dHOE,
     dFI,dYN,dELIFI,dTURNED GAN,dAIN,,,dAEN,dHARD SIGN,dLABIAL SIGN,
     SUNDANESE PUNCTUATION BINDU SURYA,cPANGLONG,cPURNAMA,cCAKRA,cLEU SATANGA,cKA SATANGA,
     cDA SATANGA,cBA SATANGA,,,,,,,,,VEDIC TONE KARSHANA,bSHARA,bPRENKHA,aSIGN NIHSHVASA,
     bYAJURVEDIC MIDLINE SVARITA,aTONE YAJURVEDIC AGGRAVATED INDEPENDENT SVARITA,
     cINDEPENDENT SVARITA,cKATHAKA INDEPENDENT SVARITA,bCANDRA BELOW,
     bYAJURVEDIC KATHAKA INDEPENDENT SVARITA SCHROEDER,bDOUBLE SVARITA,bTRIPLE SVARITA,
     bKATHAKA ANUDATTA,bDOT BELOW,bTWO DOTS BELOW,bTHREE DOTS BELOW,
     bRIGVEDIC KASHMIRI INDEPENDENT SVARITA,bATHARVAVEDIC INDEPENDENT SVARITA,aSIGN VISARGA SVARITA,
     cUDATTA,bREVERSED VISARGA UDATTA,bVISARGA ANUDATTA,bREVERSED VISARGA ANUDATTA,
     bVISARGA UDATTA WITH TAIL,cANUDATTA WITH TAIL,bANUSVARA ANTARGOMUKHA,cBAHIRGOMUKHA,
     cVAMAGOMUKHA,dWITH TAIL,bTIRYAK,bHEXIFORM LONG ANUSVARA,bLONG ANUSVARA,bRTHANG LONG ANUSVARA,
     bANUSVARA UBHAYATO MUKHA,bARDHAVISARGA,bROTATED ARDHAVISARGA,aTONE CANDRA ABOVE,
     aSIGN JIHVAMULIYA,bUPADHMANIYA,bATIKRAMA,aTONE RING ABOVE,bDOUBLE RING ABOVE,
     aSIGN DOUBLE ANUSVARA ANTARGOMUKHA,,,,,,LATIN LETTER SMALL CAPITAL A,dAE,
     aSMALL LETTER TURNED AE,aLETTER SMALL CAPITAL BARRED B,dC,dD,dETH,dE,
     aSMALL LETTER TURNED OPEN E,dI,aLETTER SMALL CAPITAL J,dK,dL WITH STROKE,dM,dREVERSED N,dO,
     dOPEN O,aSMALL LETTER SIDEWAYS O,dOPEN O,dO WITH STROKE,cTURNED OE,aLETTER SMALL CAPITAL OU,
     aSMALL LETTER TOP HALF O,cBOTTOM HALF O,aLETTER SMALL CAPITAL P,dREVERSED R,dTURNED R,dT,dU,
     aSMALL LETTER SIDEWAYS U,dDIAERESIZED U,dTURNED M,aLETTER SMALL CAPITAL V,dW,dZ,dEZH,
     bVOICED LARYNGEAL SPIRANT,bAIN,GREEK LETTER SMALL CAPITAL GAMMA,dLAMDA,dPI,dRHO,dPSI,
     CYRILLIC LETTER SMALL CAPITAL EL,MODIFIER LETTER CAPITAL A,cAE,cB,cBARRED B,cD,cE,cREVERSED E,
     cG,cH,cI,cJ,cK,cL,cM,cN,cREVERSED N,cO,cOU,cP,cR,cT,cU,cW,bSMALL A,cTURNED A,cALPHA,cTURNED AE,
     cB,cD,cE,cSCHWA,cOPEN E,cTURNED OPEN E,cG,cTURNED I,cK,cM,cENG,cO,cOPEN O,cTOP HALF O,
     cBOTTOM HALF O,cP,cT,cU,cSIDEWAYS U,cTURNED M,cV,cAIN,cBETA,cGREEK GAMMA,cDELTA,cGREEK PHI,
     cCHI,LATIN SUBSCRIPT SMALL LETTER I,dR,dU,dV,GREEK SUBSCRIPT SMALL LETTER BETA,dGAMMA,dRHO,
     dPHI,dCHI,LATIN SMALL LETTER UE,cB WITH MIDDLE TILDE,cD WITH MIDDLE TILDE,cF WITH MIDDLE TILDE,
     cM WITH MIDDLE TILDE,cN WITH MIDDLE TILDE,cP WITH MIDDLE TILDE,cR WITH MIDDLE TILDE,
     eFISHHOOK AND MIDDLE TILDE,cS WITH MIDDLE TILDE,cT WITH MIDDLE TILDE,cZ WITH MIDDLE TILDE,
     cTURNED G,MODIFIER LETTER CYRILLIC EN,LATIN SMALL LETTER INSULAR G,cTH WITH STRIKETHROUGH,
     bCAPITAL LETTER I WITH STROKE,bLETTER IOTA WITH STROKE,cP WITH STROKE,
     bCAPITAL LETTER U WITH STROKE,bLETTER UPSILON WITH STROKE,cB WITH PALATAL HOOK,
     cD WITH PALATAL HOOK,cF WITH PALATAL HOOK,cG WITH PALATAL HOOK,cK WITH PALATAL HOOK,
     cL WITH PALATAL HOOK,cM WITH PALATAL HOOK,cN WITH PALATAL HOOK,cP WITH PALATAL HOOK,
     cR WITH PALATAL HOOK,cS WITH PALATAL HOOK,cESH WITH PALATAL HOOK,cV WITH PALATAL HOOK,
     cX WITH PALATAL HOOK,cZ WITH PALATAL HOOK,cA WITH RETROFLEX HOOK,cALPHA WITH RETROFLEX HOOK,
     cD WITH HOOK AND TAIL,cE WITH RETROFLEX HOOK,cOPEN E WITH RETROFLEX HOOK,
     cREVERSED OPEN E WITH RETROFLEX HOOK,cSCHWA WITH RETROFLEX HOOK,cI WITH RETROFLEX HOOK,
     cOPEN O WITH RETROFLEX HOOK,cESH WITH RETROFLEX HOOK,cU WITH RETROFLEX HOOK,
     cEZH WITH RETROFLEX HOOK,MODIFIER LETTER SMALL TURNED ALPHA,cC,dWITH CURL,cETH,
     cREVERSED OPEN E,cF,cDOTLESS J WITH STROKE,cSCRIPT G,cTURNED H,cI WITH STROKE,cIOTA,cCAPITAL I,
     eWITH STROKE,cJ WITH CROSSED-TAIL,cL WITH RETROFLEX HOOK,ePALATAL HOOK,cCAPITAL L,cM WITH HOOK,
     cTURNED M WITH LONG LEG,cN WITH LEFT HOOK,eRETROFLEX HOOK,cCAPITAL N,cBARRED O,cPHI,
     cS WITH HOOK,cESH,cT WITH PALATAL HOOK,cU BAR,cUPSILON,cCAPITAL U,cV WITH HOOK,cTURNED V,cZ,
     dWITH RETROFLEX HOOK,eCURL,cEZH,cTHETA,COMBINING DOTTED GRAVE ACCENT,bACUTE ACCENT,
     aSNAKE BELOW,aSUSPENSION MARK,aMACRON-ACUTE,aGRAVE-MACRON,aMACRON-GRAVE,aACUTE-MACRON,
     aGRAVE-ACUTE-GRAVE,aACUTE-GRAVE-ACUTE,aLATIN SMALL LETTER R BELOW,aBREVE-MACRON,aMACRON-BREVE,
     aDOUBLE CIRCUMFLEX ABOVE,aOGONEK ABOVE,aZIGZAG BELOW,aIS BELOW,aUR ABOVE,aUS ABOVE,
     aLATIN SMALL LETTER FLATTENED OPEN A ABOVE,dAE,dAO,dAV,dC CEDILLA,dINSULAR D,dETH,dG,
     bLETTER SMALL CAPITAL G,bSMALL LETTER K,dL,bLETTER SMALL CAPITAL L,eM,bSMALL LETTER N,
     bLETTER SMALL CAPITAL N,eR,bSMALL LETTER R ROTUNDA,dS,dLONG S,dZ,dALPHA,dB,dBETA,dSCHWA,dF,
     dL WITH DOUBLE MIDDLE TILDE,dO WITH LIGHT CENTRALIZATION STROKE,dP,dESH,
     dU WITH LIGHT CENTRALIZATION STROKE,dW,dA WITH DIAERESIS,dO WITH DIAERESIS,dU WITH DIAERESIS,
     aUP TACK ABOVE,aKAVYKA ABOVE RIGHT,cLEFT,aDOT ABOVE LEFT,aWIDE INVERTED BRIDGE BELOW,
     aDOT BELOW LEFT,aDELETION MARK,aDOUBLE INVERTED BREVE BELOW,aALMOST EQUAL TO BELOW,
     aLEFT ARROWHEAD ABOVE,aRIGHT ARROWHEAD AND DOWN ARROWHEAD BELOW,
     LATIN CAPITAL LETTER A WITH RING BELOW,aSMALL LETTER A WITH RING BELOW,
     aCAPITAL LETTER B WITH DOT ABOVE,aSMALL LETTER B WITH DOT ABOVE,
     aCAPITAL LETTER B WITH DOT BELOW,aSMALL LETTER B WITH DOT BELOW,
     aCAPITAL LETTER B WITH LINE BELOW,aSMALL LETTER B WITH LINE BELOW,
     aCAPITAL LETTER C WITH CEDILLA AND ACUTE,aSMALL LETTER C WITH CEDILLA AND ACUTE,
     aCAPITAL LETTER D WITH DOT ABOVE,aSMALL LETTER D WITH DOT ABOVE,
     aCAPITAL LETTER D WITH DOT BELOW,aSMALL LETTER D WITH DOT BELOW,
     aCAPITAL LETTER D WITH LINE BELOW,aSMALL LETTER D WITH LINE BELOW,
     aCAPITAL LETTER D WITH CEDILLA,aSMALL LETTER D WITH CEDILLA,
     aCAPITAL LETTER D WITH CIRCUMFLEX BELOW,aSMALL LETTER D WITH CIRCUMFLEX BELOW,
     aCAPITAL LETTER E WITH MACRON AND GRAVE,aSMALL LETTER E WITH MACRON AND GRAVE,
     aCAPITAL LETTER E WITH MACRON AND ACUTE,aSMALL LETTER E WITH MACRON AND ACUTE,
     aCAPITAL LETTER E WITH CIRCUMFLEX BELOW,aSMALL LETTER E WITH CIRCUMFLEX BELOW,
     aCAPITAL LETTER E WITH TILDE BELOW,aSMALL LETTER E WITH TILDE BELOW,
     aCAPITAL LETTER E WITH CEDILLA AND BREVE,aSMALL LETTER E WITH CEDILLA AND BREVE,
     aCAPITAL LETTER F WITH DOT ABOVE,aSMALL LETTER F WITH DOT ABOVE,aCAPITAL LETTER G WITH MACRON,
     aSMALL LETTER G WITH MACRON,aCAPITAL LETTER H WITH DOT ABOVE,aSMALL LETTER H WITH DOT ABOVE,
     aCAPITAL LETTER H WITH DOT BELOW,aSMALL LETTER H WITH DOT BELOW,
     aCAPITAL LETTER H WITH DIAERESIS,aSMALL LETTER H WITH DIAERESIS,aCAPITAL LETTER H WITH CEDILLA,
     aSMALL LETTER H WITH CEDILLA,aCAPITAL LETTER H WITH BREVE BELOW,
     aSMALL LETTER H WITH BREVE BELOW,aCAPITAL LETTER I WITH TILDE BELOW,
     aSMALL LETTER I WITH TILDE BELOW,aCAPITAL LETTER I WITH DIAERESIS AND ACUTE,
     aSMALL LETTER I WITH DIAERESIS AND ACUTE,aCAPITAL LETTER K WITH ACUTE,
     aSMALL LETTER K WITH ACUTE,aCAPITAL LETTER K WITH DOT BELOW,aSMALL LETTER K WITH DOT BELOW,
     aCAPITAL LETTER K WITH LINE BELOW,aSMALL LETTER K WITH LINE BELOW,
     aCAPITAL LETTER L WITH DOT BELOW,aSMALL LETTER L WITH DOT BELOW,
     aCAPITAL LETTER L WITH DOT BELOW AND MACRON,aSMALL LETTER L WITH DOT BELOW AND MACRON,
     aCAPITAL LETTER L WITH LINE BELOW,aSMALL LETTER L WITH LINE BELOW,
     aCAPITAL LETTER L WITH CIRCUMFLEX BELOW,aSMALL LETTER L WITH CIRCUMFLEX BELOW,
     aCAPITAL LETTER M WITH ACUTE,aSMALL LETTER M WITH ACUTE,aCAPITAL LETTER M WITH DOT ABOVE,
     aSMALL LETTER M WITH DOT ABOVE,aCAPITAL LETTER M WITH DOT BELOW,aSMALL LETTER M WITH DOT BELOW,
     aCAPITAL LETTER N WITH DOT ABOVE,aSMALL LETTER N WITH DOT ABOVE,
     aCAPITAL LETTER N WITH DOT BELOW,aSMALL LETTER N WITH DOT BELOW,
     aCAPITAL LETTER N WITH LINE BELOW,aSMALL LETTER N WITH LINE BELOW,
     aCAPITAL LETTER N WITH CIRCUMFLEX BELOW,aSMALL LETTER N WITH CIRCUMFLEX BELOW,
     aCAPITAL LETTER O WITH TILDE AND ACUTE,aSMALL LETTER O WITH TILDE AND ACUTE,
     aCAPITAL LETTER O WITH TILDE AND DIAERESIS,aSMALL LETTER O WITH TILDE AND DIAERESIS,
     aCAPITAL LETTER O WITH MACRON AND GRAVE,aSMALL LETTER O WITH MACRON AND GRAVE,
     aCAPITAL LETTER O WITH MACRON AND ACUTE,aSMALL LETTER O WITH MACRON AND ACUTE,
     aCAPITAL LETTER P WITH ACUTE,aSMALL LETTER P WITH ACUTE,aCAPITAL LETTER P WITH DOT ABOVE,
     aSMALL LETTER P WITH DOT ABOVE,aCAPITAL LETTER R WITH DOT ABOVE,aSMALL LETTER R WITH DOT ABOVE,
     aCAPITAL LETTER R WITH DOT BELOW,aSMALL LETTER R WITH DOT BELOW,
     aCAPITAL LETTER R WITH DOT BELOW AND MACRON,aSMALL LETTER R WITH DOT BELOW AND MACRON,
     aCAPITAL LETTER R WITH LINE BELOW,aSMALL LETTER R WITH LINE BELOW,
     aCAPITAL LETTER S WITH DOT ABOVE,aSMALL LETTER S WITH DOT ABOVE,
     aCAPITAL LETTER S WITH DOT BELOW,aSMALL LETTER S WITH DOT BELOW,
     aCAPITAL LETTER S WITH ACUTE AND DOT ABOVE,aSMALL LETTER S WITH ACUTE AND DOT ABOVE,
     aCAPITAL LETTER S WITH CARON AND DOT ABOVE,aSMALL LETTER S WITH CARON AND DOT ABOVE,
     aCAPITAL LETTER S WITH DOT BELOW AND DOT ABOVE,aSMALL LETTER S WITH DOT BELOW AND DOT ABOVE,
     aCAPITAL LETTER T WITH DOT ABOVE,aSMALL LETTER T WITH DOT ABOVE,
     aCAPITAL LETTER T WITH DOT BELOW,aSMALL LETTER T WITH DOT BELOW,
     aCAPITAL LETTER T WITH LINE BELOW,aSMALL LETTER T WITH LINE BELOW,
     aCAPITAL LETTER T WITH CIRCUMFLEX BELOW,aSMALL LETTER T WITH CIRCUMFLEX BELOW,
     aCAPITAL LETTER U WITH DIAERESIS BELOW,aSMALL LETTER U WITH DIAERESIS BELOW,
     aCAPITAL LETTER U WITH TILDE BELOW,aSMALL LETTER U WITH TILDE BELOW,
     aCAPITAL LETTER U WITH CIRCUMFLEX BELOW,aSMALL LETTER U WITH CIRCUMFLEX BELOW,
     aCAPITAL LETTER U WITH TILDE AND ACUTE,aSMALL LETTER U WITH TILDE AND ACUTE,
     aCAPITAL LETTER U WITH MACRON AND DIAERESIS,aSMALL LETTER U WITH MACRON AND DIAERESIS,
     aCAPITAL LETTER V WITH TILDE,aSMALL LETTER V WITH TILDE,aCAPITAL LETTER V WITH DOT BELOW,
     aSMALL LETTER V WITH DOT BELOW,aCAPITAL LETTER W WITH GRAVE,aSMALL LETTER W WITH GRAVE,
     aCAPITAL LETTER W WITH ACUTE,aSMALL LETTER W WITH ACUTE,aCAPITAL LETTER W WITH DIAERESIS,
     aSMALL LETTER W WITH DIAERESIS,aCAPITAL LETTER W WITH DOT ABOVE,aSMALL LETTER W WITH DOT ABOVE,
     aCAPITAL LETTER W WITH DOT BELOW,aSMALL LETTER W WITH DOT BELOW,
     aCAPITAL LETTER X WITH DOT ABOVE,aSMALL LETTER X WITH DOT ABOVE,
     aCAPITAL LETTER X WITH DIAERESIS,aSMALL LETTER X WITH DIAERESIS,
     aCAPITAL LETTER Y WITH DOT ABOVE,aSMALL LETTER Y WITH DOT ABOVE,
     aCAPITAL LETTER Z WITH CIRCUMFLEX,aSMALL LETTER Z WITH CIRCUMFLEX,
     aCAPITAL LETTER Z WITH DOT BELOW,aSMALL LETTER Z WITH DOT BELOW,
     aCAPITAL LETTER Z WITH LINE BELOW,aSMALL LETTER Z WITH LINE BELOW,cH WITH LINE BELOW,
     cT WITH DIAERESIS,cW WITH RING ABOVE,cY WITH RING ABOVE,cA WITH RIGHT HALF RING,
     cLONG S WITH DOT ABOVE,fDIAGONAL STROKE,fHIGH STROKE,aCAPITAL LETTER SHARP S,
     aSMALL LETTER DELTA,aCAPITAL LETTER A WITH DOT BELOW,aSMALL LETTER A WITH DOT BELOW,
     aCAPITAL LETTER A WITH HOOK ABOVE,aSMALL LETTER A WITH HOOK ABOVE,
     aCAPITAL LETTER A WITH CIRCUMFLEX AND ACUTE,aSMALL LETTER A WITH CIRCUMFLEX AND ACUTE,
     aCAPITAL LETTER A WITH CIRCUMFLEX AND GRAVE,aSMALL LETTER A WITH CIRCUMFLEX AND GRAVE,
     aCAPITAL LETTER A WITH CIRCUMFLEX AND HOOK ABOVE,
     aSMALL LETTER A WITH CIRCUMFLEX AND HOOK ABOVE,aCAPITAL LETTER A WITH CIRCUMFLEX AND TILDE,
     aSMALL LETTER A WITH CIRCUMFLEX AND TILDE,aCAPITAL LETTER A WITH CIRCUMFLEX AND DOT BELOW,
     aSMALL LETTER A WITH CIRCUMFLEX AND DOT BELOW,aCAPITAL LETTER A WITH BREVE AND ACUTE,
     aSMALL LETTER A WITH BREVE AND ACUTE,aCAPITAL LETTER A WITH BREVE AND GRAVE,
     aSMALL LETTER A WITH BREVE AND GRAVE,aCAPITAL LETTER A WITH BREVE AND HOOK ABOVE,
     aSMALL LETTER A WITH BREVE AND HOOK ABOVE,aCAPITAL LETTER A WITH BREVE AND TILDE,
     aSMALL LETTER A WITH BREVE AND TILDE,aCAPITAL LETTER A WITH BREVE AND DOT BELOW,
     aSMALL LETTER A WITH BREVE AND DOT BELOW,aCAPITAL LETTER E WITH DOT BELOW,
     aSMALL LETTER E WITH DOT BELOW,aCAPITAL LETTER E WITH HOOK ABOVE,
     aSMALL LETTER E WITH HOOK ABOVE,aCAPITAL LETTER E WITH TILDE,aSMALL LETTER E WITH TILDE,
     aCAPITAL LETTER E WITH CIRCUMFLEX AND ACUTE,aSMALL LETTER E WITH CIRCUMFLEX AND ACUTE,
     aCAPITAL LETTER E WITH CIRCUMFLEX AND GRAVE,aSMALL LETTER E WITH CIRCUMFLEX AND GRAVE,
     aCAPITAL LETTER E WITH CIRCUMFLEX AND HOOK ABOVE,
     aSMALL LETTER E WITH CIRCUMFLEX AND HOOK ABOVE,aCAPITAL LETTER E WITH CIRCUMFLEX AND TILDE,
     aSMALL LETTER E WITH CIRCUMFLEX AND TILDE,aCAPITAL LETTER E WITH CIRCUMFLEX AND DOT BELOW,
     aSMALL LETTER E WITH CIRCUMFLEX AND DOT BELOW,aCAPITAL LETTER I WITH HOOK ABOVE,
     aSMALL LETTER I WITH HOOK ABOVE,aCAPITAL LETTER I WITH DOT BELOW,
     aSMALL LETTER I WITH DOT BELOW,aCAPITAL LETTER O WITH DOT BELOW,aSMALL LETTER O WITH DOT BELOW,
     aCAPITAL LETTER O WITH HOOK ABOVE,aSMALL LETTER O WITH HOOK ABOVE,
     aCAPITAL LETTER O WITH CIRCUMFLEX AND ACUTE,aSMALL LETTER O WITH CIRCUMFLEX AND ACUTE,
     aCAPITAL LETTER O WITH CIRCUMFLEX AND GRAVE,aSMALL LETTER O WITH CIRCUMFLEX AND GRAVE,
     aCAPITAL LETTER O WITH CIRCUMFLEX AND HOOK ABOVE,
     aSMALL LETTER O WITH CIRCUMFLEX AND HOOK ABOVE,aCAPITAL LETTER O WITH CIRCUMFLEX AND TILDE,
     aSMALL LETTER O WITH CIRCUMFLEX AND TILDE,aCAPITAL LETTER O WITH CIRCUMFLEX AND DOT BELOW,
     aSMALL LETTER O WITH CIRCUMFLEX AND DOT BELOW,aCAPITAL LETTER O WITH HORN AND ACUTE,
     aSMALL LETTER O WITH HORN AND ACUTE,aCAPITAL LETTER O WITH HORN AND GRAVE,
     aSMALL LETTER O WITH HORN AND GRAVE,aCAPITAL LETTER O WITH HORN AND HOOK ABOVE,
     aSMALL LETTER O WITH HORN AND HOOK ABOVE,aCAPITAL LETTER O WITH HORN AND TILDE,
     aSMALL LETTER O WITH HORN AND TILDE,aCAPITAL LETTER O WITH HORN AND DOT BELOW,
     aSMALL LETTER O WITH HORN AND DOT BELOW,aCAPITAL LETTER U WITH DOT BELOW,
     aSMALL LETTER U WITH DOT BELOW,aCAPITAL LETTER U WITH HOOK ABOVE,
     aSMALL LETTER U WITH HOOK ABOVE,aCAPITAL LETTER U WITH HORN AND ACUTE,
     aSMALL LETTER U WITH HORN AND ACUTE,aCAPITAL LETTER U WITH HORN AND GRAVE,
     aSMALL LETTER U WITH HORN AND GRAVE,aCAPITAL LETTER U WITH HORN AND HOOK ABOVE,
     aSMALL LETTER U WITH HORN AND HOOK ABOVE,aCAPITAL LETTER U WITH HORN AND TILDE,
     aSMALL LETTER U WITH HORN AND TILDE,aCAPITAL LETTER U WITH HORN AND DOT BELOW,
     aSMALL LETTER U WITH HORN AND DOT BELOW,aCAPITAL LETTER Y WITH GRAVE,
     aSMALL LETTER Y WITH GRAVE,aCAPITAL LETTER Y WITH DOT BELOW,aSMALL LETTER Y WITH DOT BELOW,
     aCAPITAL LETTER Y WITH HOOK ABOVE,aSMALL LETTER Y WITH HOOK ABOVE,aCAPITAL LETTER Y WITH TILDE,
     aSMALL LETTER Y WITH TILDE,aCAPITAL LETTER MIDDLE-WELSH LL,aSMALL LETTER MIDDLE-WELSH LL,
     aCAPITAL LETTER MIDDLE-WELSH V,aSMALL LETTER MIDDLE-WELSH V,aCAPITAL LETTER Y WITH LOOP,
     aSMALL LETTER Y WITH LOOP,GREEK SMALL LETTER ALPHA WITH PSILI,eDASIA,ePSILI AND VARIA,
     eDASIA AND VARIA,ePSILI AND OXIA,eDASIA AND OXIA,ePSILI AND PERISPOMENI,eDASIA AND PERISPOMENI,
     aCAPITAL LETTER ALPHA WITH PSILI,eDASIA,ePSILI AND VARIA,eDASIA AND VARIA,ePSILI AND OXIA,
     eDASIA AND OXIA,ePSILI AND PERISPOMENI,eDASIA AND PERISPOMENI,aSMALL LETTER EPSILON WITH PSILI,
     eDASIA,ePSILI AND VARIA,eDASIA AND VARIA,ePSILI AND OXIA,eDASIA AND OXIA,,,
     aCAPITAL LETTER EPSILON WITH PSILI,eDASIA,ePSILI AND VARIA,eDASIA AND VARIA,ePSILI AND OXIA,
     eDASIA AND OXIA,,,aSMALL LETTER ETA WITH PSILI,eDASIA,ePSILI AND VARIA,eDASIA AND VARIA,
     ePSILI AND OXIA,eDASIA AND OXIA,ePSILI AND PERISPOMENI,eDASIA AND PERISPOMENI,
     aCAPITAL LETTER ETA WITH PSILI,eDASIA,ePSILI AND VARIA,eDASIA AND VARIA,ePSILI AND OXIA,
     eDASIA AND OXIA,ePSILI AND PERISPOMENI,eDASIA AND PERISPOMENI,aSMALL LETTER IOTA WITH PSILI,
     eDASIA,ePSILI AND VARIA,eDASIA AND VARIA,ePSILI AND OXIA,eDASIA AND OXIA,
     ePSILI AND PERISPOMENI,eDASIA AND PERISPOMENI,aCAPITAL LETTER IOTA WITH PSILI,eDASIA,
     ePSILI AND VARIA,eDASIA AND VARIA,ePSILI AND OXIA,eDASIA AND OXIA,ePSILI AND PERISPOMENI,
     eDASIA AND PERISPOMENI,aSMALL LETTER OMICRON WITH PSILI,eDASIA,ePSILI AND VARIA,
     eDASIA AND VARIA,ePSILI AND OXIA,eDASIA AND OXIA,,,aCAPITAL LETTER OMICRON WITH PSILI,eDASIA,
     ePSILI AND VARIA,eDASIA AND VARIA,ePSILI AND OXIA,eDASIA AND OXIA,,,
     aSMALL LETTER UPSILON WITH PSILI,eDASIA,ePSILI AND VARIA,eDASIA AND VARIA,ePSILI AND OXIA,
     eDASIA AND OXIA,ePSILI AND PERISPOMENI,eDASIA AND PERISPOMENI,,
     aCAPITAL LETTER UPSILON WITH DASIA,,fAND VARIA,,gOXIA,,gPERISPOMENI,
     aSMALL LETTER OMEGA WITH PSILI,eDASIA,ePSILI AND VARIA,eDASIA AND VARIA,ePSILI AND OXIA,
     eDASIA AND OXIA,ePSILI AND PERISPOMENI,eDASIA AND PERISPOMENI,aCAPITAL LETTER OMEGA WITH PSILI,
     eDASIA,ePSILI AND VARIA,eDASIA AND VARIA,ePSILI AND OXIA,eDASIA AND OXIA,
     ePSILI AND PERISPOMENI,eDASIA AND PERISPOMENI,aSMALL LETTER ALPHA WITH VARIA,eOXIA,
     cEPSILON WITH VARIA,eOXIA,cETA WITH VARIA,eOXIA,cIOTA WITH VARIA,eOXIA,cOMICRON WITH VARIA,
     eOXIA,cUPSILON WITH VARIA,eOXIA,cOMEGA WITH VARIA,eOXIA,,,cALPHA WITH PSILI AND YPOGEGRAMMENI,
     eDASIA AND YPOGEGRAMMENI,ePSILI AND VARIA AND YPOGEGRAMMENI,eDASIA AND VARIA AND YPOGEGRAMMENI,
     ePSILI AND OXIA AND YPOGEGRAMMENI,eDASIA AND OXIA AND YPOGEGRAMMENI,
     ePSILI AND PERISPOMENI AND YPOGEGRAMMENI,eDASIA AND PERISPOMENI AND YPOGEGRAMMENI,
     aCAPITAL LETTER ALPHA WITH PSILI AND PROSGEGRAMMENI,eDASIA AND PROSGEGRAMMENI,
     ePSILI AND VARIA AND PROSGEGRAMMENI,eDASIA AND VARIA AND PROSGEGRAMMENI,
     ePSILI AND OXIA AND PROSGEGRAMMENI,eDASIA AND OXIA AND PROSGEGRAMMENI,
     ePSILI AND PERISPOMENI AND PROSGEGRAMMENI,eDASIA AND PERISPOMENI AND PROSGEGRAMMENI,
     aSMALL LETTER ETA WITH PSILI AND YPOGEGRAMMENI,eDASIA AND YPOGEGRAMMENI,
     ePSILI AND VARIA AND YPOGEGRAMMENI,eDASIA AND VARIA AND YPOGEGRAMMENI,
     ePSILI AND OXIA AND YPOGEGRAMMENI,eDASIA AND OXIA AND YPOGEGRAMMENI,
     ePSILI AND PERISPOMENI AND YPOGEGRAMMENI,eDASIA AND PERISPOMENI AND YPOGEGRAMMENI,
     aCAPITAL LETTER ETA WITH PSILI AND PROSGEGRAMMENI,eDASIA AND PROSGEGRAMMENI,
     ePSILI AND VARIA AND PROSGEGRAMMENI,eDASIA AND VARIA AND PROSGEGRAMMENI,
     ePSILI AND OXIA AND PROSGEGRAMMENI,eDASIA AND OXIA AND PROSGEGRAMMENI,
     ePSILI AND PERISPOMENI AND PROSGEGRAMMENI,eDASIA AND PERISPOMENI AND PROSGEGRAMMENI,
     aSMALL LETTER OMEGA WITH PSILI AND YPOGEGRAMMENI,eDASIA AND YPOGEGRAMMENI,
     ePSILI AND VARIA AND YPOGEGRAMMENI,eDASIA AND VARIA AND YPOGEGRAMMENI,
     ePSILI AND OXIA AND YPOGEGRAMMENI,eDASIA AND OXIA AND YPOGEGRAMMENI,
     ePSILI AND PERISPOMENI AND YPOGEGRAMMENI,eDASIA AND PERISPOMENI AND YPOGEGRAMMENI,
     aCAPITAL LETTER OMEGA WITH PSILI AND PROSGEGRAMMENI,eDASIA AND PROSGEGRAMMENI,
     ePSILI AND VARIA AND PROSGEGRAMMENI,eDASIA AND VARIA AND PROSGEGRAMMENI,
     ePSILI AND OXIA AND PROSGEGRAMMENI,eDASIA AND OXIA AND PROSGEGRAMMENI,
     ePSILI AND PERISPOMENI AND PROSGEGRAMMENI,eDASIA AND PERISPOMENI AND PROSGEGRAMMENI,
     aSMALL LETTER ALPHA WITH VRACHY,eMACRON,eVARIA AND YPOGEGRAMMENI,eYPOGEGRAMMENI,
     eOXIA AND YPOGEGRAMMENI,,ePERISPOMENI,fAND YPOGEGRAMMENI,aCAPITAL LETTER ALPHA WITH VRACHY,
     eMACRON,eVARIA,eOXIA,ePROSGEGRAMMENI,aKORONIS,aPROSGEGRAMMENI,aPSILI,aPERISPOMENI,
     aDIALYTIKA AND PERISPOMENI,aSMALL LETTER ETA WITH VARIA AND YPOGEGRAMMENI,eYPOGEGRAMMENI,
     eOXIA AND YPOGEGRAMMENI,,ePERISPOMENI,fAND YPOGEGRAMMENI,aCAPITAL LETTER EPSILON WITH VARIA,
     eOXIA,cETA WITH VARIA,eOXIA,ePROSGEGRAMMENI,aPSILI AND VARIA,cOXIA,cPERISPOMENI,
     aSMALL LETTER IOTA WITH VRACHY,eMACRON,eDIALYTIKA AND VARIA,gOXIA,,,ePERISPOMENI,
     eDIALYTIKA AND PERISPOMENI,aCAPITAL LETTER IOTA WITH VRACHY,eMACRON,eVARIA,eOXIA,,
     aDASIA AND VARIA,cOXIA,cPERISPOMENI,aSMALL LETTER UPSILON WITH VRACHY,eMACRON,
     eDIALYTIKA AND VARIA,gOXIA,cRHO WITH PSILI,eDASIA,cUPSILON WITH PERISPOMENI,
     eDIALYTIKA AND PERISPOMENI,aCAPITAL LETTER UPSILON WITH VRACHY,eMACRON,eVARIA,eOXIA,
     cRHO WITH DASIA,aDIALYTIKA AND VARIA,cOXIA,aVARIA,,,
     aSMALL LETTER OMEGA WITH VARIA AND YPOGEGRAMMENI,eYPOGEGRAMMENI,eOXIA AND YPOGEGRAMMENI,,
     ePERISPOMENI,fAND YPOGEGRAMMENI,aCAPITAL LETTER OMICRON WITH VARIA,eOXIA,cOMEGA WITH VARIA,
     eOXIA,ePROSGEGRAMMENI,aOXIA,aDASIA,,EN QUAD,EM QUAD,EN SPACE,EM SPACE,THREE-PER-EM SPACE,
     FOUR-PER-EM SPACE,SIX-PER-EM SPACE,FIGURE SPACE,PUNCTUATION SPACE,THIN SPACE,HAIR SPACE,
     ZERO WIDTH SPACE,bNON-JOINER,bJOINER,LEFT-TO-RIGHT MARK,RIGHT-TO-LEFT MARK,HYPHEN,
     NON-BREAKING HYPHEN,FIGURE DASH,EN DASH,EM DASH,HORIZONTAL BAR,DOUBLE VERTICAL LINE,aLOW LINE,
     LEFT SINGLE QUOTATION MARK,RIGHT SINGLE QUOTATION MARK,SINGLE LOW-9 QUOTATION MARK,
     aHIGH-REVERSED-9 QUOTATION MARK,LEFT DOUBLE QUOTATION MARK,RIGHT DOUBLE QUOTATION MARK,
     DOUBLE LOW-9 QUOTATION MARK,aHIGH-REVERSED-9 QUOTATION MARK,DAGGER,DOUBLE DAGGER,BULLET,
     TRIANGULAR BULLET,ONE DOT LEADER,TWO DOT LEADER,HORIZONTAL ELLIPSIS,HYPHENATION POINT,
     LINE SEPARATOR,PARAGRAPH SEPARATOR,LEFT-TO-RIGHT EMBEDDING,RIGHT-TO-LEFT EMBEDDING,
     POP DIRECTIONAL FORMATTING,LEFT-TO-RIGHT OVERRIDE,RIGHT-TO-LEFT OVERRIDE,NARROW NO-BREAK SPACE,
     PER MILLE SIGN,aTEN THOUSAND SIGN,PRIME,DOUBLE PRIME,TRIPLE PRIME,REVERSED PRIME,aDOUBLE PRIME,
     aTRIPLE PRIME,CARET,SINGLE LEFT-POINTING ANGLE QUOTATION MARK,
     aRIGHT-POINTING ANGLE QUOTATION MARK,REFERENCE MARK,DOUBLE EXCLAMATION MARK,INTERROBANG,
     OVERLINE,UNDERTIE,CHARACTER TIE,CARET INSERTION POINT,ASTERISM,HYPHEN BULLET,FRACTION SLASH,
     LEFT SQUARE BRACKET WITH QUILL,RIGHT SQUARE BRACKET WITH QUILL,DOUBLE QUESTION MARK,
     QUESTION EXCLAMATION MARK,EXCLAMATION QUESTION MARK,TIRONIAN SIGN ET,REVERSED PILCROW SIGN,
     BLACK LEFTWARDS BULLET,aRIGHTWARDS BULLET,LOW ASTERISK,REVERSED SEMICOLON,CLOSE UP,
     TWO ASTERISKS ALIGNED VERTICALLY,COMMERCIAL MINUS SIGN,SWUNG DASH,INVERTED UNDERTIE,
     FLOWER PUNCTUATION MARK,THREE DOT PUNCTUATION,QUADRUPLE PRIME,FOUR DOT PUNCTUATION,
     FIVE DOT PUNCTUATION,TWO DOT PUNCTUATION,FOUR DOT MARK,DOTTED CROSS,TRICOLON,
     VERTICAL FOUR DOTS,MEDIUM MATHEMATICAL SPACE,WORD JOINER,FUNCTION APPLICATION,INVISIBLE TIMES,
     aSEPARATOR,aPLUS,,LEFT-TO-RIGHT ISOLATE,RIGHT-TO-LEFT ISOLATE,FIRST STRONG ISOLATE,
     POP DIRECTIONAL ISOLATE,INHIBIT SYMMETRIC SWAPPING,ACTIVATE SYMMETRIC SWAPPING,
     INHIBIT ARABIC FORM SHAPING,ACTIVATE ARABIC FORM SHAPING,NATIONAL DIGIT SHAPES,
     NOMINAL DIGIT SHAPES,SUPERSCRIPT ZERO,aLATIN SMALL LETTER I,,,aFOUR,aFIVE,aSIX,aSEVEN,aEIGHT,
     aNINE,aPLUS SIGN,aMINUS,aEQUALS SIGN,aLEFT PARENTHESIS,aRIGHT PARENTHESIS,
     aLATIN SMALL LETTER N,SUBSCRIPT ZERO,aONE,aTWO,aTHREE,aFOUR,aFIVE,aSIX,aSEVEN,aEIGHT,aNINE,
     aPLUS SIGN,aMINUS,aEQUALS SIGN,aLEFT PARENTHESIS,aRIGHT PARENTHESIS,,
     LATIN SUBSCRIPT SMALL LETTER A,dE,dO,dX,dSCHWA,dH,dK,dL,dM,dN,dP,dS,dT,,,,EURO-CURRENCY SIGN,
     COLON SIGN,CRUZEIRO SIGN,FRENCH FRANC SIGN,LIRA SIGN,MILL SIGN,NAIRA SIGN,PESETA SIGN,
     RUPEE SIGN,WON SIGN,NEW SHEQEL SIGN,DONG SIGN,EURO SIGN,KIP SIGN,TUGRIK SIGN,DRACHMA SIGN,
     GERMAN PENNY SIGN,PESO SIGN,GUARANI SIGN,AUSTRAL SIGN,HRYVNIA SIGN,CEDI SIGN,
     LIVRE TOURNOIS SIGN,SPESMILO SIGN,TENGE SIGN,INDIAN RUPEE SIGN,TURKISH LIRA SIGN,
     NORDIC MARK SIGN,MANAT SIGN,RUBLE SIGN,LARI SIGN,BITCOIN SIGN,SOM SIGN"),
   (0x20d0, "COMBINING LEFT HARPOON ABOVE,aRIGHT HARPOON ABOVE,aLONG VERTICAL LINE OVERLAY,
     aSHORT VERTICAL LINE OVERLAY,aANTICLOCKWISE ARROW ABOVE,aCLOCKWISE ARROW ABOVE,
     aLEFT ARROW ABOVE,aRIGHT ARROW ABOVE,aRING OVERLAY,aCLOCKWISE RING OVERLAY,
     aANTICLOCKWISE RING OVERLAY,aTHREE DOTS ABOVE,aFOUR DOTS ABOVE,aENCLOSING CIRCLE,bSQUARE,
     bDIAMOND,bCIRCLE BACKSLASH,aLEFT RIGHT ARROW ABOVE,aENCLOSING SCREEN,bKEYCAP,
     bUPWARD POINTING TRIANGLE,aREVERSE SOLIDUS OVERLAY,aDOUBLE VERTICAL STROKE OVERLAY,
     aANNUITY SYMBOL,aTRIPLE UNDERDOT,aWIDE BRIDGE ABOVE,aLEFTWARDS ARROW OVERLAY,
     aLONG DOUBLE SOLIDUS OVERLAY,aRIGHTWARDS HARPOON WITH BARB DOWNWARDS,
     aLEFTWARDS HARPOON WITH BARB DOWNWARDS,aLEFT ARROW BELOW,aRIGHT ARROW BELOW,aASTERISK ABOVE"),
   (0x2100, "ACCOUNT OF,ADDRESSED TO THE SUBJECT,DOUBLE-STRUCK CAPITAL C,DEGREE CELSIUS,
     CENTRE LINE SYMBOL,CARE OF,CADA UNA,EULER CONSTANT,SCRUPLE,DEGREE FAHRENHEIT,SCRIPT SMALL G,
     aCAPITAL H,BLACK-LETTER CAPITAL H,DOUBLE-STRUCK CAPITAL H,PLANCK CONSTANT,bOVER TWO PI,
     SCRIPT CAPITAL I,BLACK-LETTER CAPITAL I,SCRIPT CAPITAL L,aSMALL L,L B BAR SYMBOL,
     DOUBLE-STRUCK CAPITAL N,NUMERO SIGN,SOUND RECORDING COPYRIGHT,SCRIPT CAPITAL P,
     DOUBLE-STRUCK CAPITAL P,bQ,SCRIPT CAPITAL R,BLACK-LETTER CAPITAL R,DOUBLE-STRUCK CAPITAL R,
     PRESCRIPTION TAKE,RESPONSE,SERVICE MARK,TELEPHONE SIGN,TRADE MARK SIGN,VERSICLE,
     DOUBLE-STRUCK CAPITAL Z,OUNCE SIGN,OHM SIGN,INVERTED OHM SIGN,BLACK-LETTER CAPITAL Z,
     TURNED GREEK SMALL LETTER IOTA,KELVIN SIGN,ANGSTROM SIGN,SCRIPT CAPITAL B,
     BLACK-LETTER CAPITAL C,ESTIMATED SYMBOL,SCRIPT SMALL E,aCAPITAL E,bF,TURNED CAPITAL F,
     SCRIPT CAPITAL M,aSMALL O,ALEF SYMBOL,BET SYMBOL,GIMEL SYMBOL,DALET SYMBOL,INFORMATION SOURCE,
     ROTATED CAPITAL Q,FACSIMILE SIGN,DOUBLE-STRUCK SMALL PI,bGAMMA,aCAPITAL GAMMA,bPI,
     aN-ARY SUMMATION,TURNED SANS-SERIF CAPITAL G,cL,REVERSED SANS-SERIF CAPITAL L,
     TURNED SANS-SERIF CAPITAL Y,DOUBLE-STRUCK ITALIC CAPITAL D,bSMALL D,cE,cI,cJ,PROPERTY LINE,
     TURNED AMPERSAND,PER SIGN,AKTIESELSKAB,TURNED SMALL F,SYMBOL FOR SAMARITAN SOURCE,
     VULGAR FRACTION ONE SEVENTH,cNINTH,cTENTH,cTHIRD,bTWO THIRDS,bONE FIFTH,bTWO FIFTHS,
     bTHREE FIFTHS,bFOUR FIFTHS,bONE SIXTH,bFIVE SIXTHS,bONE EIGHTH,bTHREE EIGHTHS,bFIVE EIGHTHS,
     bSEVEN EIGHTHS,FRACTION NUMERATOR ONE,ROMAN NUMERAL ONE,bTWO,bTHREE,bFOUR,bFIVE,bSIX,bSEVEN,
     bEIGHT,bNINE,bTEN,bELEVEN,bTWELVE,bFIFTY,bONE HUNDRED,bFIVE HUNDRED,bONE THOUSAND,
     SMALL ROMAN NUMERAL ONE,cTWO,cTHREE,cFOUR,cFIVE,cSIX,cSEVEN,cEIGHT,cNINE,cTEN,cELEVEN,cTWELVE,
     cFIFTY,cONE HUNDRED,cFIVE HUNDRED,cONE THOUSAND,ROMAN NUMERAL ONE THOUSAND C D,bFIVE THOUSAND,
     bTEN THOUSAND,bREVERSED ONE HUNDRED,LATIN SMALL LETTER REVERSED C,ROMAN NUMERAL SIX LATE FORM,
     bFIFTY EARLY FORM,cTHOUSAND,bONE HUNDRED THOUSAND,VULGAR FRACTION ZERO THIRDS,TURNED DIGIT TWO,
     bTHREE,,,,,LEFTWARDS ARROW,UPWARDS ARROW,RIGHTWARDS ARROW,DOWNWARDS ARROW,LEFT RIGHT ARROW,
     UP DOWN ARROW,NORTH WEST ARROW,aEAST ARROW,SOUTH EAST ARROW,aWEST ARROW,
     LEFTWARDS ARROW WITH STROKE,RIGHTWARDS ARROW WITH STROKE,LEFTWARDS WAVE ARROW,
     RIGHTWARDS WAVE ARROW,LEFTWARDS TWO HEADED ARROW,UPWARDS TWO HEADED ARROW,
     RIGHTWARDS TWO HEADED ARROW,DOWNWARDS TWO HEADED ARROW,LEFTWARDS ARROW WITH TAIL,
     RIGHTWARDS ARROW WITH TAIL,LEFTWARDS ARROW FROM BAR,UPWARDS ARROW FROM BAR,
     RIGHTWARDS ARROW FROM BAR,DOWNWARDS ARROW FROM BAR,UP DOWN ARROW WITH BASE,
     LEFTWARDS ARROW WITH HOOK,RIGHTWARDS ARROW WITH HOOK,LEFTWARDS ARROW WITH LOOP,
     RIGHTWARDS ARROW WITH LOOP,LEFT RIGHT WAVE ARROW,bARROW WITH STROKE,DOWNWARDS ZIGZAG ARROW,
     UPWARDS ARROW WITH TIP LEFTWARDS,dRIGHTWARDS,DOWNWARDS ARROW WITH TIP LEFTWARDS,dRIGHTWARDS,
     RIGHTWARDS ARROW WITH CORNER DOWNWARDS,DOWNWARDS ARROW WITH CORNER LEFTWARDS,
     ANTICLOCKWISE TOP SEMICIRCLE ARROW,CLOCKWISE TOP SEMICIRCLE ARROW,NORTH WEST ARROW TO LONG BAR,
     LEFTWARDS ARROW TO BAR OVER RIGHTWARDS ARROW TO BAR,ANTICLOCKWISE OPEN CIRCLE ARROW,
     CLOCKWISE OPEN CIRCLE ARROW,LEFTWARDS HARPOON WITH BARB UPWARDS,dDOWNWARDS,
     UPWARDS HARPOON WITH BARB RIGHTWARDS,dLEFTWARDS,RIGHTWARDS HARPOON WITH BARB UPWARDS,
     dDOWNWARDS,DOWNWARDS HARPOON WITH BARB RIGHTWARDS,dLEFTWARDS,
     RIGHTWARDS ARROW OVER LEFTWARDS ARROW,UPWARDS ARROW LEFTWARDS OF DOWNWARDS ARROW,
     LEFTWARDS ARROW OVER RIGHTWARDS ARROW,aPAIRED ARROWS,UPWARDS PAIRED ARROWS,
     RIGHTWARDS PAIRED ARROWS,DOWNWARDS PAIRED ARROWS,LEFTWARDS HARPOON OVER RIGHTWARDS HARPOON,
     RIGHTWARDS HARPOON OVER LEFTWARDS HARPOON,LEFTWARDS DOUBLE ARROW WITH STROKE,
     LEFT RIGHT DOUBLE ARROW WITH STROKE,RIGHTWARDS DOUBLE ARROW WITH STROKE,LEFTWARDS DOUBLE ARROW,
     UPWARDS DOUBLE ARROW,RIGHTWARDS DOUBLE ARROW,DOWNWARDS DOUBLE ARROW,LEFT RIGHT DOUBLE ARROW,
     UP DOWN DOUBLE ARROW,NORTH WEST DOUBLE ARROW,aEAST DOUBLE ARROW,SOUTH EAST DOUBLE ARROW,
     aWEST DOUBLE ARROW,LEFTWARDS TRIPLE ARROW,RIGHTWARDS TRIPLE ARROW,LEFTWARDS SQUIGGLE ARROW,
     RIGHTWARDS SQUIGGLE ARROW,UPWARDS ARROW WITH DOUBLE STROKE,DOWNWARDS ARROW WITH DOUBLE STROKE,
     LEFTWARDS DASHED ARROW,UPWARDS DASHED ARROW,RIGHTWARDS DASHED ARROW,DOWNWARDS DASHED ARROW,
     LEFTWARDS ARROW TO BAR,RIGHTWARDS ARROW TO BAR,LEFTWARDS WHITE ARROW,UPWARDS WHITE ARROW,
     RIGHTWARDS WHITE ARROW,DOWNWARDS WHITE ARROW,UPWARDS WHITE ARROW FROM BAR,cON PEDESTAL,
     eWITH HORIZONTAL BAR,fVERTICAL BAR,bDOUBLE ARROW,dON PEDESTAL,RIGHTWARDS WHITE ARROW FROM WALL,
     NORTH WEST ARROW TO CORNER,SOUTH EAST ARROW TO CORNER,UP DOWN WHITE ARROW,
     RIGHT ARROW WITH SMALL CIRCLE,DOWNWARDS ARROW LEFTWARDS OF UPWARDS ARROW,
     THREE RIGHTWARDS ARROWS,LEFTWARDS ARROW WITH VERTICAL STROKE,
     RIGHTWARDS ARROW WITH VERTICAL STROKE,LEFT RIGHT ARROW WITH VERTICAL STROKE,
     LEFTWARDS ARROW WITH DOUBLE VERTICAL STROKE,RIGHTWARDS ARROW WITH DOUBLE VERTICAL STROKE,
     LEFT RIGHT ARROW WITH DOUBLE VERTICAL STROKE,LEFTWARDS OPEN-HEADED ARROW,
     RIGHTWARDS OPEN-HEADED ARROW,LEFT RIGHT OPEN-HEADED ARROW,FOR ALL,COMPLEMENT,
     PARTIAL DIFFERENTIAL,THERE EXISTS,aDOES NOT EXIST,EMPTY SET,INCREMENT,NABLA,ELEMENT OF,
     NOT AN ELEMENT OF,SMALL ELEMENT OF,CONTAINS AS MEMBER,DOES NOT CONTAIN AS MEMBER,
     SMALL CONTAINS AS MEMBER,END OF PROOF,N-ARY PRODUCT,aCOPRODUCT,aSUMMATION,MINUS SIGN,
     MINUS-OR-PLUS SIGN,DOT PLUS,DIVISION SLASH,SET MINUS,ASTERISK OPERATOR,RING OPERATOR,
     BULLET OPERATOR,SQUARE ROOT,CUBE ROOT,FOURTH ROOT,PROPORTIONAL TO,INFINITY,RIGHT ANGLE,ANGLE,
     MEASURED ANGLE,SPHERICAL ANGLE,DIVIDES,DOES NOT DIVIDE,PARALLEL TO,NOT PARALLEL TO,LOGICAL AND,
     aOR,INTERSECTION,UNION,INTEGRAL,DOUBLE INTEGRAL,TRIPLE INTEGRAL,CONTOUR INTEGRAL,
     SURFACE INTEGRAL,VOLUME INTEGRAL,CLOCKWISE INTEGRAL,aCONTOUR INTEGRAL,
     ANTICLOCKWISE CONTOUR INTEGRAL,THEREFORE,BECAUSE,RATIO,PROPORTION,DOT MINUS,EXCESS,
     GEOMETRIC PROPORTION,HOMOTHETIC,TILDE OPERATOR,REVERSED TILDE,INVERTED LAZY S,SINE WAVE,
     WREATH PRODUCT,NOT TILDE,MINUS TILDE,ASYMPTOTICALLY EQUAL TO,NOT ASYMPTOTICALLY EQUAL TO,
     APPROXIMATELY EQUAL TO,aBUT NOT ACTUALLY EQUAL TO,NEITHER APPROXIMATELY NOR ACTUALLY EQUAL TO,
     ALMOST EQUAL TO,NOT ALMOST EQUAL TO,ALMOST EQUAL OR EQUAL TO,TRIPLE TILDE,ALL EQUAL TO,
     EQUIVALENT TO,GEOMETRICALLY EQUIVALENT TO,DIFFERENCE BETWEEN,APPROACHES THE LIMIT,
     GEOMETRICALLY EQUAL TO,APPROXIMATELY EQUAL TO OR THE IMAGE OF,
     IMAGE OF OR APPROXIMATELY EQUAL TO,COLON EQUALS,EQUALS COLON,RING IN EQUAL TO,aEQUAL TO,
     CORRESPONDS TO,ESTIMATES,EQUIANGULAR TO,STAR EQUALS,DELTA EQUAL TO,EQUAL TO BY DEFINITION,
     MEASURED BY,QUESTIONED EQUAL TO,NOT EQUAL TO,IDENTICAL TO,NOT IDENTICAL TO,
     STRICTLY EQUIVALENT TO,LESS-THAN OR EQUAL TO,GREATER-THAN OR EQUAL TO,LESS-THAN OVER EQUAL TO,
     GREATER-THAN OVER EQUAL TO,LESS-THAN BUT NOT EQUAL TO,GREATER-THAN BUT NOT EQUAL TO,
     MUCH LESS-THAN,aGREATER-THAN,BETWEEN,NOT EQUIVALENT TO,aLESS-THAN,aGREATER-THAN,
     NEITHER LESS-THAN NOR EQUAL TO,aGREATER-THAN NOR EQUAL TO,LESS-THAN OR EQUIVALENT TO,
     GREATER-THAN OR EQUIVALENT TO,NEITHER LESS-THAN NOR EQUIVALENT TO,
     aGREATER-THAN NOR EQUIVALENT TO,LESS-THAN OR GREATER-THAN,GREATER-THAN OR LESS-THAN,
     NEITHER LESS-THAN NOR GREATER-THAN,aGREATER-THAN NOR LESS-THAN,PRECEDES,SUCCEEDS,
     PRECEDES OR EQUAL TO,SUCCEEDS OR EQUAL TO,PRECEDES OR EQUIVALENT TO,SUCCEEDS OR EQUIVALENT TO,
     DOES NOT PRECEDE,bSUCCEED,SUBSET OF,SUPERSET OF,NOT A SUBSET OF,bSUPERSET OF,
     SUBSET OF OR EQUAL TO,SUPERSET OF OR EQUAL TO,NEITHER A SUBSET OF NOR EQUAL TO,
     bSUPERSET OF NOR EQUAL TO,SUBSET OF WITH NOT EQUAL TO,SUPERSET OF WITH NOT EQUAL TO,MULTISET,
     aMULTIPLICATION,aUNION,SQUARE IMAGE OF,aORIGINAL OF,aIMAGE OF OR EQUAL TO,
     aORIGINAL OF OR EQUAL TO,aCAP,aCUP,CIRCLED PLUS,aMINUS,aTIMES,aDIVISION SLASH,aDOT OPERATOR,
     aRING OPERATOR,aASTERISK OPERATOR,aEQUALS,aDASH,SQUARED PLUS,aMINUS,aTIMES,aDOT OPERATOR,
     RIGHT TACK,LEFT TACK,DOWN TACK,UP TACK,ASSERTION,MODELS,TRUE,FORCES,
     TRIPLE VERTICAL BAR RIGHT TURNSTILE,DOUBLE VERTICAL BAR DOUBLE RIGHT TURNSTILE,DOES NOT PROVE,
     NOT TRUE,DOES NOT FORCE,NEGATED DOUBLE VERTICAL BAR DOUBLE RIGHT TURNSTILE,
     PRECEDES UNDER RELATION,SUCCEEDS UNDER RELATION,NORMAL SUBGROUP OF,CONTAINS AS NORMAL SUBGROUP,
     NORMAL SUBGROUP OF OR EQUAL TO,CONTAINS AS NORMAL SUBGROUP OR EQUAL TO,ORIGINAL OF,IMAGE OF,
     MULTIMAP,HERMITIAN CONJUGATE MATRIX,INTERCALATE,XOR,NAND,NOR,RIGHT ANGLE WITH ARC,aTRIANGLE,
     N-ARY LOGICAL AND,bOR,aINTERSECTION,aUNION,DIAMOND OPERATOR,DOT OPERATOR,STAR OPERATOR,
     DIVISION TIMES,BOWTIE,LEFT NORMAL FACTOR SEMIDIRECT PRODUCT,
     RIGHT NORMAL FACTOR SEMIDIRECT PRODUCT,LEFT SEMIDIRECT PRODUCT,RIGHT SEMIDIRECT PRODUCT,
     REVERSED TILDE EQUALS,CURLY LOGICAL OR,bAND,DOUBLE SUBSET,aSUPERSET,aINTERSECTION,aUNION,
     PITCHFORK,EQUAL AND PARALLEL TO,LESS-THAN WITH DOT,GREATER-THAN WITH DOT,VERY MUCH LESS-THAN,
     bGREATER-THAN,LESS-THAN EQUAL TO OR GREATER-THAN,GREATER-THAN EQUAL TO OR LESS-THAN,
     EQUAL TO OR LESS-THAN,cGREATER-THAN,cPRECEDES,cSUCCEEDS,DOES NOT PRECEDE OR EQUAL,
     bSUCCEED OR EQUAL,NOT SQUARE IMAGE OF OR EQUAL TO,bORIGINAL OF OR EQUAL TO,
     SQUARE IMAGE OF OR NOT EQUAL TO,aORIGINAL OF OR NOT EQUAL TO,LESS-THAN BUT NOT EQUIVALENT TO,
     GREATER-THAN BUT NOT EQUIVALENT TO,PRECEDES BUT NOT EQUIVALENT TO,
     SUCCEEDS BUT NOT EQUIVALENT TO,NOT NORMAL SUBGROUP OF,DOES NOT CONTAIN AS NORMAL SUBGROUP,
     NOT NORMAL SUBGROUP OF OR EQUAL TO,DOES NOT CONTAIN AS NORMAL SUBGROUP OR EQUAL,
     VERTICAL ELLIPSIS,MIDLINE HORIZONTAL ELLIPSIS,UP RIGHT DIAGONAL ELLIPSIS,
     DOWN RIGHT DIAGONAL ELLIPSIS,ELEMENT OF WITH LONG HORIZONTAL STROKE,
     cVERTICAL BAR AT END OF HORIZONTAL STROKE,
     SMALL ELEMENT OF WITH VERTICAL BAR AT END OF HORIZONTAL STROKE,ELEMENT OF WITH DOT ABOVE,
     cOVERBAR,SMALL ELEMENT OF WITH OVERBAR,ELEMENT OF WITH UNDERBAR,cTWO HORIZONTAL STROKES,
     CONTAINS WITH LONG HORIZONTAL STROKE,bVERTICAL BAR AT END OF HORIZONTAL STROKE,
     SMALL CONTAINS WITH VERTICAL BAR AT END OF HORIZONTAL STROKE,CONTAINS WITH OVERBAR,
     SMALL CONTAINS WITH OVERBAR,Z NOTATION BAG MEMBERSHIP,DIAMETER SIGN,ELECTRIC ARROW,HOUSE,
     UP ARROWHEAD,DOWN ARROWHEAD,PROJECTIVE,PERSPECTIVE,WAVY LINE,LEFT CEILING,RIGHT CEILING,
     LEFT FLOOR,RIGHT FLOOR,BOTTOM RIGHT CROP,aLEFT CROP,TOP RIGHT CROP,aLEFT CROP,
     REVERSED NOT SIGN,SQUARE LOZENGE,ARC,SEGMENT,SECTOR,TELEPHONE RECORDER,POSITION INDICATOR,
     VIEWDATA SQUARE,PLACE OF INTEREST SIGN,TURNED NOT SIGN,WATCH,HOURGLASS,TOP LEFT CORNER,
     aRIGHT CORNER,BOTTOM LEFT CORNER,aRIGHT CORNER,TOP HALF INTEGRAL,BOTTOM HALF INTEGRAL,FROWN,
     SMILE,UP ARROWHEAD BETWEEN TWO HORIZONTAL BARS,OPTION KEY,ERASE TO THE RIGHT,
     X IN A RECTANGLE BOX,KEYBOARD,LEFT-POINTING ANGLE BRACKET,RIGHT-POINTING ANGLE BRACKET,
     ERASE TO THE LEFT,BENZENE RING,CYLINDRICITY,ALL AROUND-PROFILE,SYMMETRY,TOTAL RUNOUT,
     DIMENSION ORIGIN,CONICAL TAPER,SLOPE,COUNTERBORE,COUNTERSINK,APL FUNCTIONAL SYMBOL I-BEAM,
     cSQUISH QUAD,cQUAD EQUAL,dDIVIDE,dDIAMOND,dJOT,dCIRCLE,cCIRCLE STILE,dJOT,cSLASH BAR,
     cBACKSLASH BAR,cQUAD SLASH,dBACKSLASH,dLESS-THAN,dGREATER-THAN,cLEFTWARDS VANE,
     cRIGHTWARDS VANE,cQUAD LEFTWARDS ARROW,dRIGHTWARDS ARROW,cCIRCLE BACKSLASH,cDOWN TACK UNDERBAR,
     cDELTA STILE,cQUAD DOWN CARET,dDELTA,cDOWN TACK JOT,cUPWARDS VANE,cQUAD UPWARDS ARROW,
     cUP TACK OVERBAR,cDEL STILE,cQUAD UP CARET,dDEL,cUP TACK JOT,cDOWNWARDS VANE,
     cQUAD DOWNWARDS ARROW,cQUOTE UNDERBAR,cDELTA UNDERBAR,cDIAMOND UNDERBAR,cJOT UNDERBAR,
     cCIRCLE UNDERBAR,cUP SHOE JOT,cQUOTE QUAD,cCIRCLE STAR,cQUAD COLON,cUP TACK DIAERESIS,
     cDEL DIAERESIS,cSTAR DIAERESIS,cJOT DIAERESIS,cCIRCLE DIAERESIS,cDOWN SHOE STILE,
     cLEFT SHOE STILE,cTILDE DIAERESIS,cGREATER-THAN DIAERESIS,cCOMMA BAR,cDEL TILDE,cZILDE,
     cSTILE TILDE,cSEMICOLON UNDERBAR,cQUAD NOT EQUAL,dQUESTION,cDOWN CARET TILDE,cUP CARET TILDE,
     cIOTA,cRHO,cOMEGA,cALPHA UNDERBAR,cEPSILON UNDERBAR,cIOTA UNDERBAR,cOMEGA UNDERBAR,cALPHA,
     NOT CHECK MARK,RIGHT ANGLE WITH DOWNWARDS ZIGZAG ARROW,SHOULDERED OPEN BOX,BELL SYMBOL,
     VERTICAL LINE WITH MIDDLE DOT,INSERTION SYMBOL,CONTINUOUS UNDERLINE SYMBOL,
     DISCONTINUOUS UNDERLINE SYMBOL,EMPHASIS SYMBOL,COMPOSITION SYMBOL,
     WHITE SQUARE WITH CENTRE VERTICAL LINE,ENTER SYMBOL,ALTERNATIVE KEY SYMBOL,HELM SYMBOL,
     CIRCLED HORIZONTAL BAR WITH NOTCH,aTRIANGLE DOWN,BROKEN CIRCLE WITH NORTHWEST ARROW,
     UNDO SYMBOL,MONOSTABLE SYMBOL,HYSTERESIS SYMBOL,OPEN-CIRCUIT-OUTPUT H-TYPE SYMBOL,
     aL-TYPE SYMBOL,PASSIVE-PULL-DOWN-OUTPUT SYMBOL,PASSIVE-PULL-UP-OUTPUT SYMBOL,
     DIRECT CURRENT SYMBOL FORM TWO,SOFTWARE-FUNCTION SYMBOL,APL FUNCTIONAL SYMBOL QUAD,
     DECIMAL SEPARATOR KEY SYMBOL,PREVIOUS PAGE,NEXT PAGE,PRINT SCREEN SYMBOL,CLEAR SCREEN SYMBOL,
     LEFT PARENTHESIS UPPER HOOK,bEXTENSION,bLOWER HOOK,RIGHT PARENTHESIS UPPER HOOK,bEXTENSION,
     bLOWER HOOK,LEFT SQUARE BRACKET UPPER CORNER,cEXTENSION,cLOWER CORNER,
     RIGHT SQUARE BRACKET UPPER CORNER,cEXTENSION,cLOWER CORNER,LEFT CURLY BRACKET UPPER HOOK,
     cMIDDLE PIECE,cLOWER HOOK,CURLY BRACKET EXTENSION,RIGHT CURLY BRACKET UPPER HOOK,cMIDDLE PIECE,
     cLOWER HOOK,INTEGRAL EXTENSION,HORIZONTAL LINE EXTENSION,
     UPPER LEFT OR LOWER RIGHT CURLY BRACKET SECTION,aRIGHT OR LOWER LEFT CURLY BRACKET SECTION,
     SUMMATION TOP,aBOTTOM,TOP SQUARE BRACKET,BOTTOM SQUARE BRACKET,cOVER TOP SQUARE BRACKET,
     RADICAL SYMBOL BOTTOM,LEFT VERTICAL BOX LINE,RIGHT VERTICAL BOX LINE,HORIZONTAL SCAN LINE-1,
     bLINE-3,bLINE-7,bLINE-9,DENTISTRY SYMBOL LIGHT VERTICAL AND TOP RIGHT,eBOTTOM RIGHT,
     dWITH CIRCLE,cDOWN AND HORIZONTAL WITH CIRCLE,cUP AND HORIZONTAL WITH CIRCLE,
     cVERTICAL WITH TRIANGLE,cDOWN AND HORIZONTAL WITH TRIANGLE,cUP AND HORIZONTAL WITH TRIANGLE,
     cVERTICAL AND WAVE,cDOWN AND HORIZONTAL WITH WAVE,cUP AND HORIZONTAL WITH WAVE,
     cDOWN AND HORIZONTAL,cUP AND HORIZONTAL,cVERTICAL AND TOP LEFT,eBOTTOM LEFT,SQUARE FOOT,
     RETURN SYMBOL,EJECT SYMBOL,VERTICAL LINE EXTENSION,METRICAL BREVE,aLONG OVER SHORT,
     aSHORT OVER LONG,aLONG OVER TWO SHORTS,aTWO SHORTS OVER LONG,cJOINED,aTRISEME,aTETRASEME,
     aPENTASEME,EARTH GROUND,FUSE,TOP PARENTHESIS,BOTTOM PARENTHESIS,TOP CURLY BRACKET,
     BOTTOM CURLY BRACKET,TOP TORTOISE SHELL BRACKET,BOTTOM TORTOISE SHELL BRACKET,WHITE TRAPEZIUM,
     BENZENE RING WITH CIRCLE,STRAIGHTNESS,FLATNESS,AC CURRENT,ELECTRICAL INTERSECTION,
     DECIMAL EXPONENT SYMBOL,BLACK RIGHT-POINTING DOUBLE TRIANGLE,aLEFT-POINTING DOUBLE TRIANGLE,
     aUP-POINTING DOUBLE TRIANGLE,aDOWN-POINTING DOUBLE TRIANGLE,
     aRIGHT-POINTING DOUBLE TRIANGLE WITH VERTICAL BAR,
     aLEFT-POINTING DOUBLE TRIANGLE WITH VERTICAL BAR,
     aRIGHT-POINTING TRIANGLE WITH DOUBLE VERTICAL BAR,ALARM CLOCK,STOPWATCH,TIMER CLOCK,
     HOURGLASS WITH FLOWING SAND,BLACK MEDIUM LEFT-POINTING TRIANGLE,bRIGHT-POINTING TRIANGLE,
     bUP-POINTING TRIANGLE,bDOWN-POINTING TRIANGLE,DOUBLE VERTICAL BAR,BLACK SQUARE FOR STOP,
     aCIRCLE FOR RECORD,POWER SYMBOL,aON-OFF SYMBOL,aON SYMBOL,aSLEEP SYMBOL,OBSERVER EYE SYMBOL,
     SYMBOL FOR NULL,bSTART OF HEADING,dTEXT,bEND OF TEXT,dTRANSMISSION,bENQUIRY,bACKNOWLEDGE,bBELL,
     bBACKSPACE,bHORIZONTAL TABULATION,bLINE FEED,bVERTICAL TABULATION,bFORM FEED,bCARRIAGE RETURN,
     bSHIFT OUT,cIN,bDATA LINK ESCAPE,bDEVICE CONTROL ONE,dTWO,dTHREE,dFOUR,bNEGATIVE ACKNOWLEDGE,
     bSYNCHRONOUS IDLE,bEND OF TRANSMISSION BLOCK,bCANCEL,bEND OF MEDIUM,bSUBSTITUTE,bESCAPE,
     bFILE SEPARATOR,bGROUP SEPARATOR,bRECORD SEPARATOR,bUNIT SEPARATOR,bSPACE,bDELETE,BLANK SYMBOL,
     OPEN BOX,SYMBOL FOR NEWLINE,bDELETE FORM TWO,bSUBSTITUTE FORM TWO"),
   (0x2440, "OCR HOOK,aCHAIR,aFORK,aINVERTED FORK,aBELT BUCKLE,aBOW TIE,aBRANCH BANK IDENTIFICATION,
     aAMOUNT OF CHECK,aDASH,aCUSTOMER ACCOUNT NUMBER,aDOUBLE BACKSLASH"),
   (0x2460, "CIRCLED DIGIT ONE,bTWO,bTHREE,bFOUR,bFIVE,bSIX,bSEVEN,bEIGHT,bNINE,aNUMBER TEN,bELEVEN,
     bTWELVE,bTHIRTEEN,bFOURTEEN,bFIFTEEN,bSIXTEEN,bSEVENTEEN,bEIGHTEEN,bNINETEEN,bTWENTY,
     PARENTHESIZED DIGIT ONE,bTWO,bTHREE,bFOUR,bFIVE,bSIX,bSEVEN,bEIGHT,bNINE,aNUMBER TEN,bELEVEN,
     bTWELVE,bTHIRTEEN,bFOURTEEN,bFIFTEEN,bSIXTEEN,bSEVENTEEN,bEIGHTEEN,bNINETEEN,bTWENTY,
     DIGIT ONE FULL STOP,aTWO FULL STOP,aTHREE FULL STOP,aFOUR FULL STOP,aFIVE FULL STOP,
     aSIX FULL STOP,aSEVEN FULL STOP,aEIGHT FULL STOP,aNINE FULL STOP,NUMBER TEN FULL STOP,
     aELEVEN FULL STOP,aTWELVE FULL STOP,aTHIRTEEN FULL STOP,aFOURTEEN FULL STOP,aFIFTEEN FULL STOP,
     aSIXTEEN FULL STOP,aSEVENTEEN FULL STOP,aEIGHTEEN FULL STOP,aNINETEEN FULL STOP,
     aTWENTY FULL STOP,PARENTHESIZED LATIN SMALL LETTER A,dB,dC,dD,dE,dF,dG,dH,dI,dJ,dK,dL,dM,dN,dO,
     dP,dQ,dR,dS,dT,dU,dV,dW,dX,dY,dZ,CIRCLED LATIN CAPITAL LETTER A,dB,dC,dD,dE,dF,dG,dH,dI,dJ,dK,
     dL,dM,dN,dO,dP,dQ,dR,dS,dT,dU,dV,dW,dX,dY,dZ,bSMALL LETTER A,dB,dC,dD,dE,dF,dG,dH,dI,dJ,dK,dL,
     dM,dN,dO,dP,dQ,dR,dS,dT,dU,dV,dW,dX,dY,dZ,aDIGIT ZERO,NEGATIVE CIRCLED NUMBER ELEVEN,cTWELVE,
     cTHIRTEEN,cFOURTEEN,cFIFTEEN,cSIXTEEN,cSEVENTEEN,cEIGHTEEN,cNINETEEN,cTWENTY,
     DOUBLE CIRCLED DIGIT ONE,cTWO,cTHREE,cFOUR,cFIVE,cSIX,cSEVEN,cEIGHT,cNINE,bNUMBER TEN,
     NEGATIVE CIRCLED DIGIT ZERO,BOX DRAWINGS LIGHT HORIZONTAL,bHEAVY HORIZONTAL,bLIGHT VERTICAL,
     bHEAVY VERTICAL,bLIGHT TRIPLE DASH HORIZONTAL,bHEAVY TRIPLE DASH HORIZONTAL,
     bLIGHT TRIPLE DASH VERTICAL,bHEAVY TRIPLE DASH VERTICAL,bLIGHT QUADRUPLE DASH HORIZONTAL,
     bHEAVY QUADRUPLE DASH HORIZONTAL,bLIGHT QUADRUPLE DASH VERTICAL,bHEAVY QUADRUPLE DASH VERTICAL,
     bLIGHT DOWN AND RIGHT,bDOWN LIGHT AND RIGHT HEAVY,cHEAVY AND RIGHT LIGHT,bHEAVY DOWN AND RIGHT,
     bLIGHT DOWN AND LEFT,bDOWN LIGHT AND LEFT HEAVY,cHEAVY AND LEFT LIGHT,bHEAVY DOWN AND LEFT,
     bLIGHT UP AND RIGHT,bUP LIGHT AND RIGHT HEAVY,cHEAVY AND RIGHT LIGHT,bHEAVY UP AND RIGHT,
     bLIGHT UP AND LEFT,bUP LIGHT AND LEFT HEAVY,cHEAVY AND LEFT LIGHT,bHEAVY UP AND LEFT,
     bLIGHT VERTICAL AND RIGHT,bVERTICAL LIGHT AND RIGHT HEAVY,bUP HEAVY AND RIGHT DOWN LIGHT,
     bDOWN HEAVY AND RIGHT UP LIGHT,bVERTICAL HEAVY AND RIGHT LIGHT,bDOWN LIGHT AND RIGHT UP HEAVY,
     bUP LIGHT AND RIGHT DOWN HEAVY,bHEAVY VERTICAL AND RIGHT,bLIGHT VERTICAL AND LEFT,
     bVERTICAL LIGHT AND LEFT HEAVY,bUP HEAVY AND LEFT DOWN LIGHT,bDOWN HEAVY AND LEFT UP LIGHT,
     bVERTICAL HEAVY AND LEFT LIGHT,bDOWN LIGHT AND LEFT UP HEAVY,bUP LIGHT AND LEFT DOWN HEAVY,
     bHEAVY VERTICAL AND LEFT,bLIGHT DOWN AND HORIZONTAL,bLEFT HEAVY AND RIGHT DOWN LIGHT,
     bRIGHT HEAVY AND LEFT DOWN LIGHT,bDOWN LIGHT AND HORIZONTAL HEAVY,cHEAVY AND HORIZONTAL LIGHT,
     bRIGHT LIGHT AND LEFT DOWN HEAVY,bLEFT LIGHT AND RIGHT DOWN HEAVY,bHEAVY DOWN AND HORIZONTAL,
     bLIGHT UP AND HORIZONTAL,bLEFT HEAVY AND RIGHT UP LIGHT,bRIGHT HEAVY AND LEFT UP LIGHT,
     bUP LIGHT AND HORIZONTAL HEAVY,cHEAVY AND HORIZONTAL LIGHT,bRIGHT LIGHT AND LEFT UP HEAVY,
     bLEFT LIGHT AND RIGHT UP HEAVY,bHEAVY UP AND HORIZONTAL,bLIGHT VERTICAL AND HORIZONTAL,
     bLEFT HEAVY AND RIGHT VERTICAL LIGHT,bRIGHT HEAVY AND LEFT VERTICAL LIGHT,
     bVERTICAL LIGHT AND HORIZONTAL HEAVY,bUP HEAVY AND DOWN HORIZONTAL LIGHT,
     bDOWN HEAVY AND UP HORIZONTAL LIGHT,bVERTICAL HEAVY AND HORIZONTAL LIGHT,
     bLEFT UP HEAVY AND RIGHT DOWN LIGHT,bRIGHT UP HEAVY AND LEFT DOWN LIGHT,
     bLEFT DOWN HEAVY AND RIGHT UP LIGHT,bRIGHT DOWN HEAVY AND LEFT UP LIGHT,
     bDOWN LIGHT AND UP HORIZONTAL HEAVY,bUP LIGHT AND DOWN HORIZONTAL HEAVY,
     bRIGHT LIGHT AND LEFT VERTICAL HEAVY,bLEFT LIGHT AND RIGHT VERTICAL HEAVY,
     bHEAVY VERTICAL AND HORIZONTAL,bLIGHT DOUBLE DASH HORIZONTAL,bHEAVY DOUBLE DASH HORIZONTAL,
     bLIGHT DOUBLE DASH VERTICAL,bHEAVY DOUBLE DASH VERTICAL,bDOUBLE HORIZONTAL,cVERTICAL,
     bDOWN SINGLE AND RIGHT DOUBLE,cDOUBLE AND RIGHT SINGLE,bDOUBLE DOWN AND RIGHT,
     bDOWN SINGLE AND LEFT DOUBLE,cDOUBLE AND LEFT SINGLE,bDOUBLE DOWN AND LEFT,
     bUP SINGLE AND RIGHT DOUBLE,cDOUBLE AND RIGHT SINGLE,bDOUBLE UP AND RIGHT,
     bUP SINGLE AND LEFT DOUBLE,cDOUBLE AND LEFT SINGLE,bDOUBLE UP AND LEFT,
     bVERTICAL SINGLE AND RIGHT DOUBLE,cDOUBLE AND RIGHT SINGLE,bDOUBLE VERTICAL AND RIGHT,
     bVERTICAL SINGLE AND LEFT DOUBLE,cDOUBLE AND LEFT SINGLE,bDOUBLE VERTICAL AND LEFT,
     bDOWN SINGLE AND HORIZONTAL DOUBLE,cDOUBLE AND HORIZONTAL SINGLE,bDOUBLE DOWN AND HORIZONTAL,
     bUP SINGLE AND HORIZONTAL DOUBLE,cDOUBLE AND HORIZONTAL SINGLE,bDOUBLE UP AND HORIZONTAL,
     bVERTICAL SINGLE AND HORIZONTAL DOUBLE,cDOUBLE AND HORIZONTAL SINGLE,
     bDOUBLE VERTICAL AND HORIZONTAL,bLIGHT ARC DOWN AND RIGHT,fLEFT,dUP AND LEFT,fRIGHT,
     cDIAGONAL UPPER RIGHT TO LOWER LEFT,eLEFT TO LOWER RIGHT,dCROSS,cLEFT,cUP,cRIGHT,cDOWN,
     bHEAVY LEFT,cUP,cRIGHT,cDOWN,bLIGHT LEFT AND HEAVY RIGHT,cUP AND HEAVY DOWN,
     bHEAVY LEFT AND LIGHT RIGHT,cUP AND LIGHT DOWN,UPPER HALF BLOCK,LOWER ONE EIGHTH BLOCK,
     bQUARTER BLOCK,aTHREE EIGHTHS BLOCK,aHALF BLOCK,aFIVE EIGHTHS BLOCK,aTHREE QUARTERS BLOCK,
     aSEVEN EIGHTHS BLOCK,FULL BLOCK,LEFT SEVEN EIGHTHS BLOCK,aTHREE QUARTERS BLOCK,
     aFIVE EIGHTHS BLOCK,aHALF BLOCK,aTHREE EIGHTHS BLOCK,aONE QUARTER BLOCK,bEIGHTH BLOCK,
     RIGHT HALF BLOCK,LIGHT SHADE,MEDIUM SHADE,DARK SHADE,UPPER ONE EIGHTH BLOCK,
     RIGHT ONE EIGHTH BLOCK,QUADRANT LOWER LEFT,bRIGHT,aUPPER LEFT,cAND LOWER LEFT AND LOWER RIGHT,
     eRIGHT,dUPPER RIGHT AND LOWER LEFT,hRIGHT,bRIGHT,cAND LOWER LEFT,fAND LOWER RIGHT,BLACK SQUARE,
     WHITE SQUARE,bWITH ROUNDED CORNERS,bCONTAINING BLACK SMALL SQUARE,SQUARE WITH HORIZONTAL FILL,
     bVERTICAL FILL,bORTHOGONAL CROSSHATCH FILL,bUPPER LEFT TO LOWER RIGHT FILL,
     cRIGHT TO LOWER LEFT FILL,bDIAGONAL CROSSHATCH FILL,BLACK SMALL SQUARE,WHITE SMALL SQUARE,
     BLACK RECTANGLE,WHITE RECTANGLE,BLACK VERTICAL RECTANGLE,WHITE VERTICAL RECTANGLE,
     BLACK PARALLELOGRAM,WHITE PARALLELOGRAM,BLACK UP-POINTING TRIANGLE,WHITE UP-POINTING TRIANGLE,
     BLACK UP-POINTING SMALL TRIANGLE,WHITE UP-POINTING SMALL TRIANGLE,
     BLACK RIGHT-POINTING TRIANGLE,WHITE RIGHT-POINTING TRIANGLE,
     BLACK RIGHT-POINTING SMALL TRIANGLE,WHITE RIGHT-POINTING SMALL TRIANGLE,
     BLACK RIGHT-POINTING POINTER,WHITE RIGHT-POINTING POINTER,BLACK DOWN-POINTING TRIANGLE,
     WHITE DOWN-POINTING TRIANGLE,BLACK DOWN-POINTING SMALL TRIANGLE,
     WHITE DOWN-POINTING SMALL TRIANGLE,BLACK LEFT-POINTING TRIANGLE,WHITE LEFT-POINTING TRIANGLE,
     BLACK LEFT-POINTING SMALL TRIANGLE,WHITE LEFT-POINTING SMALL TRIANGLE,
     BLACK LEFT-POINTING POINTER,WHITE LEFT-POINTING POINTER,BLACK DIAMOND,WHITE DIAMOND,
     bCONTAINING BLACK SMALL DIAMOND,FISHEYE,LOZENGE,WHITE CIRCLE,DOTTED CIRCLE,
     CIRCLE WITH VERTICAL FILL,BULLSEYE,BLACK CIRCLE,CIRCLE WITH LEFT HALF BLACK,bRIGHT HALF BLACK,
     bLOWER HALF BLACK,bUPPER HALF BLACK,cRIGHT QUADRANT BLACK,bALL BUT UPPER LEFT QUADRANT BLACK,
     LEFT HALF BLACK CIRCLE,RIGHT HALF BLACK CIRCLE,INVERSE BULLET,aWHITE CIRCLE,
     UPPER HALF INVERSE WHITE CIRCLE,LOWER HALF INVERSE WHITE CIRCLE,
     UPPER LEFT QUADRANT CIRCULAR ARC,aRIGHT QUADRANT CIRCULAR ARC,
     LOWER RIGHT QUADRANT CIRCULAR ARC,aLEFT QUADRANT CIRCULAR ARC,UPPER HALF CIRCLE,
     LOWER HALF CIRCLE,BLACK LOWER RIGHT TRIANGLE,bLEFT TRIANGLE,aUPPER LEFT TRIANGLE,
     bRIGHT TRIANGLE,WHITE BULLET,SQUARE WITH LEFT HALF BLACK,bRIGHT HALF BLACK,
     bUPPER LEFT DIAGONAL HALF BLACK,bLOWER RIGHT DIAGONAL HALF BLACK,
     WHITE SQUARE WITH VERTICAL BISECTING LINE,aUP-POINTING TRIANGLE WITH DOT,
     UP-POINTING TRIANGLE WITH LEFT HALF BLACK,cRIGHT HALF BLACK,LARGE CIRCLE,
     WHITE SQUARE WITH UPPER LEFT QUADRANT,cLOWER LEFT QUADRANT,dRIGHT QUADRANT,
     cUPPER RIGHT QUADRANT,aCIRCLE WITH UPPER LEFT QUADRANT,cLOWER LEFT QUADRANT,dRIGHT QUADRANT,
     cUPPER RIGHT QUADRANT,UPPER LEFT TRIANGLE,aRIGHT TRIANGLE,LOWER LEFT TRIANGLE,
     WHITE MEDIUM SQUARE,BLACK MEDIUM SQUARE,WHITE MEDIUM SMALL SQUARE,BLACK MEDIUM SMALL SQUARE,
     LOWER RIGHT TRIANGLE,BLACK SUN WITH RAYS,CLOUD,UMBRELLA,SNOWMAN,COMET,BLACK STAR,WHITE STAR,
     LIGHTNING,THUNDERSTORM,SUN,ASCENDING NODE,DESCENDING NODE,CONJUNCTION,OPPOSITION,
     BLACK TELEPHONE,WHITE TELEPHONE,BALLOT BOX,bWITH CHECK,cX,SALTIRE,UMBRELLA WITH RAIN DROPS,
     HOT BEVERAGE,WHITE SHOGI PIECE,BLACK SHOGI PIECE,SHAMROCK,REVERSED ROTATED FLORAL HEART BULLET,
     BLACK LEFT POINTING INDEX,aRIGHT POINTING INDEX,WHITE LEFT POINTING INDEX,aUP POINTING INDEX,
     aRIGHT POINTING INDEX,aDOWN POINTING INDEX,SKULL AND CROSSBONES,CAUTION SIGN,RADIOACTIVE SIGN,
     BIOHAZARD SIGN,CADUCEUS,ANKH,ORTHODOX CROSS,CHI RHO,CROSS OF LORRAINE,bJERUSALEM,
     STAR AND CRESCENT,FARSI SYMBOL,ADI SHAKTI,HAMMER AND SICKLE,PEACE SYMBOL,YIN YANG,
     TRIGRAM FOR HEAVEN,bLAKE,bFIRE,bTHUNDER,bWIND,bWATER,bMOUNTAIN,bEARTH,WHEEL OF DHARMA,
     WHITE FROWNING FACE,aSMILING FACE,BLACK SMILING FACE,WHITE SUN WITH RAYS,FIRST QUARTER MOON,
     LAST QUARTER MOON,MERCURY,FEMALE SIGN,EARTH,MALE SIGN,JUPITER,SATURN,URANUS,NEPTUNE,PLUTO,
     ARIES,TAURUS,GEMINI,CANCER,LEO,VIRGO,LIBRA,SCORPIUS,SAGITTARIUS,CAPRICORN,AQUARIUS,PISCES,
     WHITE CHESS KING,bQUEEN,bROOK,bBISHOP,bKNIGHT,bPAWN,BLACK CHESS KING,bQUEEN,bROOK,bBISHOP,
     bKNIGHT,bPAWN,aSPADE SUIT,WHITE HEART SUIT,aDIAMOND SUIT,BLACK CLUB SUIT,WHITE SPADE SUIT,
     BLACK HEART SUIT,aDIAMOND SUIT,WHITE CLUB SUIT,HOT SPRINGS,QUARTER NOTE,EIGHTH NOTE,
     BEAMED EIGHTH NOTES,aSIXTEENTH NOTES,MUSIC FLAT SIGN,aNATURAL SIGN,aSHARP SIGN,
     WEST SYRIAC CROSS,EAST SYRIAC CROSS,UNIVERSAL RECYCLING SYMBOL,
     RECYCLING SYMBOL FOR TYPE-1 PLASTICS,cTYPE-2 PLASTICS,cTYPE-3 PLASTICS,cTYPE-4 PLASTICS,
     cTYPE-5 PLASTICS,cTYPE-6 PLASTICS,cTYPE-7 PLASTICS,cGENERIC MATERIALS,
     BLACK UNIVERSAL RECYCLING SYMBOL,RECYCLED PAPER SYMBOL,PARTIALLY-RECYCLED PAPER SYMBOL,
     PERMANENT PAPER SIGN,WHEELCHAIR SYMBOL,DIE FACE-1,aFACE-2,aFACE-3,aFACE-4,aFACE-5,aFACE-6,
     WHITE CIRCLE WITH DOT RIGHT,cTWO DOTS,BLACK CIRCLE WITH WHITE DOT RIGHT,cTWO WHITE DOTS,
     MONOGRAM FOR YANG,bYIN,DIGRAM FOR GREATER YANG,bLESSER YIN,cYANG,bGREATER YIN,WHITE FLAG,
     BLACK FLAG,HAMMER AND PICK,ANCHOR,CROSSED SWORDS,STAFF OF AESCULAPIUS,SCALES,ALEMBIC,FLOWER,
     GEAR,STAFF OF HERMES,ATOM SYMBOL,FLEUR-DE-LIS,OUTLINED WHITE STAR,THREE LINES CONVERGING RIGHT,
     cLEFT,WARNING SIGN,HIGH VOLTAGE SIGN,DOUBLED FEMALE SIGN,aMALE SIGN,
     INTERLOCKED FEMALE AND MALE SIGN,MALE AND FEMALE SIGN,aWITH STROKE SIGN,
     cAND MALE AND FEMALE SIGN,VERTICAL MALE WITH STROKE SIGN,HORIZONTAL MALE WITH STROKE SIGN,
     MEDIUM WHITE CIRCLE,aBLACK CIRCLE,aSMALL WHITE CIRCLE,MARRIAGE SYMBOL,DIVORCE SYMBOL,
     UNMARRIED PARTNERSHIP SYMBOL,COFFIN,FUNERAL URN,NEUTER,CERES,PALLAS,JUNO,VESTA,CHIRON,
     BLACK MOON LILITH,SEXTILE,SEMISEXTILE,QUINCUNX,SESQUIQUADRATE,SOCCER BALL,BASEBALL,SQUARED KEY,
     WHITE DRAUGHTS MAN,bKING,BLACK DRAUGHTS MAN,bKING,SNOWMAN WITHOUT SNOW,SUN BEHIND CLOUD,RAIN,
     BLACK SNOWMAN,THUNDER CLOUD AND RAIN,TURNED WHITE SHOGI PIECE,aBLACK SHOGI PIECE,
     WHITE DIAMOND IN SQUARE,CROSSING LANES,DISABLED CAR,OPHIUCHUS,PICK,CAR SLIDING,
     HELMET WITH WHITE CROSS,CIRCLED CROSSING LANES,CHAINS,NO ENTRY,
     ALTERNATE ONE-WAY LEFT WAY TRAFFIC,BLACK TWO-WAY LEFT WAY TRAFFIC,
     WHITE TWO-WAY LEFT WAY TRAFFIC,BLACK LEFT LANE MERGE,WHITE LEFT LANE MERGE,DRIVE SLOW SIGN,
     HEAVY WHITE DOWN-POINTING TRIANGLE,LEFT CLOSED ENTRY,SQUARED SALTIRE,
     FALLING DIAGONAL IN WHITE CIRCLE IN BLACK SQUARE,BLACK TRUCK,RESTRICTED LEFT ENTRY-1,bENTRY-2,
     ASTRONOMICAL SYMBOL FOR URANUS,HEAVY CIRCLE WITH STROKE AND TWO DOTS ABOVE,PENTAGRAM,
     RIGHT-HANDED INTERLACED PENTAGRAM,LEFT-HANDED INTERLACED PENTAGRAM,INVERTED PENTAGRAM,
     BLACK CROSS ON SHIELD,SHINTO SHRINE,CHURCH,CASTLE,HISTORIC SITE,GEAR WITHOUT HUB,aWITH HANDLES,
     MAP SYMBOL FOR LIGHTHOUSE,MOUNTAIN,UMBRELLA ON GROUND,FOUNTAIN,FLAG IN HOLE,FERRY,SAILBOAT,
     SQUARE FOUR CORNERS,SKIER,ICE SKATE,PERSON WITH BALL,TENT,JAPANESE BANK SYMBOL,
     HEADSTONE GRAVEYARD SYMBOL,FUEL PUMP,CUP ON BLACK SQUARE,
     WHITE FLAG WITH HORIZONTAL MIDDLE BLACK STRIPE,BLACK SAFETY SCISSORS,UPPER BLADE SCISSORS,
     BLACK SCISSORS,LOWER BLADE SCISSORS,WHITE SCISSORS,aHEAVY CHECK MARK,TELEPHONE LOCATION SIGN,
     TAPE DRIVE,AIRPLANE,ENVELOPE,RAISED FIST,aHAND,VICTORY HAND,WRITING HAND,LOWER RIGHT PENCIL,
     PENCIL,UPPER RIGHT PENCIL,WHITE NIB,BLACK NIB,CHECK MARK,HEAVY CHECK MARK,MULTIPLICATION X,
     HEAVY MULTIPLICATION X,BALLOT X,HEAVY BALLOT X,OUTLINED GREEK CROSS,HEAVY GREEK CROSS,
     OPEN CENTRE CROSS,HEAVY OPEN CENTRE CROSS,LATIN CROSS,SHADOWED WHITE LATIN CROSS,
     OUTLINED LATIN CROSS,MALTESE CROSS,STAR OF DAVID,FOUR TEARDROP-SPOKED ASTERISK,
     aBALLOON-SPOKED ASTERISK,HEAVY FOUR BALLOON-SPOKED ASTERISK,FOUR CLUB-SPOKED ASTERISK,
     BLACK FOUR POINTED STAR,WHITE FOUR POINTED STAR,SPARKLES,STRESS OUTLINED WHITE STAR,
     CIRCLED WHITE STAR,OPEN CENTRE BLACK STAR,BLACK CENTRE WHITE STAR,OUTLINED BLACK STAR,
     HEAVY OUTLINED BLACK STAR,PINWHEEL STAR,SHADOWED WHITE STAR,HEAVY ASTERISK,
     OPEN CENTRE ASTERISK,EIGHT SPOKED ASTERISK,aPOINTED BLACK STAR,bPINWHEEL STAR,
     SIX POINTED BLACK STAR,EIGHT POINTED RECTILINEAR BLACK STAR,
     HEAVY EIGHT POINTED RECTILINEAR BLACK STAR,TWELVE POINTED BLACK STAR,SIXTEEN POINTED ASTERISK,
     TEARDROP-SPOKED ASTERISK,OPEN CENTRE TEARDROP-SPOKED ASTERISK,HEAVY TEARDROP-SPOKED ASTERISK,
     SIX PETALLED BLACK AND WHITE FLORETTE,BLACK FLORETTE,WHITE FLORETTE,
     EIGHT PETALLED OUTLINED BLACK FLORETTE,CIRCLED OPEN CENTRE EIGHT POINTED STAR,
     HEAVY TEARDROP-SPOKED PINWHEEL ASTERISK,SNOWFLAKE,TIGHT TRIFOLIATE SNOWFLAKE,
     HEAVY CHEVRON SNOWFLAKE,SPARKLE,HEAVY SPARKLE,BALLOON-SPOKED ASTERISK,
     EIGHT TEARDROP-SPOKED PROPELLER ASTERISK,HEAVY EIGHT TEARDROP-SPOKED PROPELLER ASTERISK,
     CROSS MARK,SHADOWED WHITE CIRCLE,NEGATIVE SQUARED CROSS MARK,
     LOWER RIGHT DROP-SHADOWED WHITE SQUARE,UPPER RIGHT DROP-SHADOWED WHITE SQUARE,
     LOWER RIGHT SHADOWED WHITE SQUARE,UPPER RIGHT SHADOWED WHITE SQUARE,
     BLACK QUESTION MARK ORNAMENT,WHITE QUESTION MARK ORNAMENT,aEXCLAMATION MARK ORNAMENT,
     BLACK DIAMOND MINUS WHITE X,HEAVY EXCLAMATION MARK SYMBOL,LIGHT VERTICAL BAR,
     MEDIUM VERTICAL BAR,HEAVY VERTICAL BAR,aSINGLE TURNED COMMA QUOTATION MARK ORNAMENT,
     bCOMMA QUOTATION MARK ORNAMENT,aDOUBLE TURNED COMMA QUOTATION MARK ORNAMENT,
     bCOMMA QUOTATION MARK ORNAMENT,aLOW SINGLE COMMA QUOTATION MARK ORNAMENT,
     bDOUBLE COMMA QUOTATION MARK ORNAMENT,CURVED STEM PARAGRAPH SIGN ORNAMENT,
     HEAVY EXCLAMATION MARK ORNAMENT,aHEART EXCLAMATION MARK ORNAMENT,aBLACK HEART,
     ROTATED HEAVY BLACK HEART BULLET,FLORAL HEART,ROTATED FLORAL HEART BULLET,
     MEDIUM LEFT PARENTHESIS ORNAMENT,aRIGHT PARENTHESIS ORNAMENT,
     aFLATTENED LEFT PARENTHESIS ORNAMENT,bRIGHT PARENTHESIS ORNAMENT,
     aLEFT-POINTING ANGLE BRACKET ORNAMENT,aRIGHT-POINTING ANGLE BRACKET ORNAMENT,
     HEAVY LEFT-POINTING ANGLE QUOTATION MARK ORNAMENT,
     aRIGHT-POINTING ANGLE QUOTATION MARK ORNAMENT,aLEFT-POINTING ANGLE BRACKET ORNAMENT,
     aRIGHT-POINTING ANGLE BRACKET ORNAMENT,LIGHT LEFT TORTOISE SHELL BRACKET ORNAMENT,
     aRIGHT TORTOISE SHELL BRACKET ORNAMENT,MEDIUM LEFT CURLY BRACKET ORNAMENT,
     aRIGHT CURLY BRACKET ORNAMENT,DINGBAT NEGATIVE CIRCLED DIGIT ONE,dTWO,dTHREE,dFOUR,dFIVE,dSIX,
     dSEVEN,dEIGHT,dNINE,cNUMBER TEN,aCIRCLED SANS-SERIF DIGIT ONE,dTWO,dTHREE,dFOUR,dFIVE,dSIX,
     dSEVEN,dEIGHT,dNINE,cNUMBER TEN,aNEGATIVE CIRCLED SANS-SERIF DIGIT ONE,eTWO,eTHREE,eFOUR,eFIVE,
     eSIX,eSEVEN,eEIGHT,eNINE,dNUMBER TEN,HEAVY WIDE-HEADED RIGHTWARDS ARROW,aPLUS SIGN,aMINUS SIGN,
     aDIVISION SIGN,aSOUTH EAST ARROW,aRIGHTWARDS ARROW,aNORTH EAST ARROW,
     DRAFTING POINT RIGHTWARDS ARROW,HEAVY ROUND-TIPPED RIGHTWARDS ARROW,
     TRIANGLE-HEADED RIGHTWARDS ARROW,HEAVY TRIANGLE-HEADED RIGHTWARDS ARROW,
     DASHED TRIANGLE-HEADED RIGHTWARDS ARROW,HEAVY DASHED TRIANGLE-HEADED RIGHTWARDS ARROW,
     BLACK RIGHTWARDS ARROW,THREE-D TOP-LIGHTED RIGHTWARDS ARROWHEAD,
     aBOTTOM-LIGHTED RIGHTWARDS ARROWHEAD,BLACK RIGHTWARDS ARROWHEAD,
     HEAVY BLACK CURVED DOWNWARDS AND RIGHTWARDS ARROW,cUPWARDS AND RIGHTWARDS ARROW,
     SQUAT BLACK RIGHTWARDS ARROW,HEAVY CONCAVE-POINTED BLACK RIGHTWARDS ARROW,
     RIGHT-SHADED WHITE RIGHTWARDS ARROW,LEFT-SHADED WHITE RIGHTWARDS ARROW,
     BACK-TILTED SHADOWED WHITE RIGHTWARDS ARROW,FRONT-TILTED SHADOWED WHITE RIGHTWARDS ARROW,
     HEAVY LOWER RIGHT-SHADOWED WHITE RIGHTWARDS ARROW,aUPPER RIGHT-SHADOWED WHITE RIGHTWARDS ARROW,
     NOTCHED LOWER RIGHT-SHADOWED WHITE RIGHTWARDS ARROW,CURLY LOOP,
     NOTCHED UPPER RIGHT-SHADOWED WHITE RIGHTWARDS ARROW,CIRCLED HEAVY WHITE RIGHTWARDS ARROW,
     WHITE-FEATHERED RIGHTWARDS ARROW,BLACK-FEATHERED SOUTH EAST ARROW,aRIGHTWARDS ARROW,
     aNORTH EAST ARROW,HEAVY BLACK-FEATHERED SOUTH EAST ARROW,bRIGHTWARDS ARROW,bNORTH EAST ARROW,
     TEARDROP-BARBED RIGHTWARDS ARROW,HEAVY TEARDROP-SHANKED RIGHTWARDS ARROW,
     WEDGE-TAILED RIGHTWARDS ARROW,HEAVY WEDGE-TAILED RIGHTWARDS ARROW,
     OPEN-OUTLINED RIGHTWARDS ARROW,DOUBLE CURLY LOOP,THREE DIMENSIONAL ANGLE,
     WHITE TRIANGLE CONTAINING SMALL WHITE TRIANGLE,PERPENDICULAR,OPEN SUBSET,aSUPERSET,
     LEFT S-SHAPED BAG DELIMITER,RIGHT S-SHAPED BAG DELIMITER,OR WITH DOT INSIDE,
     REVERSE SOLIDUS PRECEDING SUBSET,SUPERSET PRECEDING SOLIDUS,
     VERTICAL BAR WITH HORIZONTAL STROKE,MATHEMATICAL RISING DIAGONAL,LONG DIVISION,
     MATHEMATICAL FALLING DIAGONAL,SQUARED LOGICAL AND,bOR,WHITE DIAMOND WITH CENTRED DOT,
     AND WITH DOT,ELEMENT OF OPENING UPWARDS,LOWER RIGHT CORNER WITH DOT,UPPER LEFT CORNER WITH DOT,
     LEFT OUTER JOIN,RIGHT OUTER JOIN,FULL OUTER JOIN,LARGE UP TACK,aDOWN TACK,
     LEFT AND RIGHT DOUBLE TURNSTILE,cTACK,aMULTIMAP,LONG RIGHT TACK,aLEFT TACK,
     UP TACK WITH CIRCLE ABOVE,LOZENGE DIVIDED BY HORIZONTAL RULE,WHITE CONCAVE-SIDED DIAMOND,
     cWITH LEFTWARDS TICK,dRIGHTWARDS TICK,aSQUARE WITH LEFTWARDS TICK,cRIGHTWARDS TICK,
     MATHEMATICAL LEFT WHITE SQUARE BRACKET,aRIGHT WHITE SQUARE BRACKET,aLEFT ANGLE BRACKET,
     aRIGHT ANGLE BRACKET,aLEFT DOUBLE ANGLE BRACKET,aRIGHT DOUBLE ANGLE BRACKET,
     aLEFT WHITE TORTOISE SHELL BRACKET,aRIGHT WHITE TORTOISE SHELL BRACKET,
     aLEFT FLATTENED PARENTHESIS,aRIGHT FLATTENED PARENTHESIS,UPWARDS QUADRUPLE ARROW,
     DOWNWARDS QUADRUPLE ARROW,ANTICLOCKWISE GAPPED CIRCLE ARROW,CLOCKWISE GAPPED CIRCLE ARROW,
     RIGHT ARROW WITH CIRCLED PLUS,LONG LEFTWARDS ARROW,aRIGHTWARDS ARROW,aLEFT RIGHT ARROW,
     aLEFTWARDS DOUBLE ARROW,aRIGHTWARDS DOUBLE ARROW,aLEFT RIGHT DOUBLE ARROW,
     aLEFTWARDS ARROW FROM BAR,aRIGHTWARDS ARROW FROM BAR,aLEFTWARDS DOUBLE ARROW FROM BAR,
     aRIGHTWARDS DOUBLE ARROW FROM BAR,bSQUIGGLE ARROW,BRAILLE PATTERN BLANK,bDOTS-1,bDOTS-2,
     bDOTS-12,bDOTS-3,bDOTS-13,bDOTS-23,bDOTS-123,bDOTS-4,bDOTS-14,bDOTS-24,bDOTS-124,bDOTS-34,
     bDOTS-134,bDOTS-234,bDOTS-1234,bDOTS-5,bDOTS-15,bDOTS-25,bDOTS-125,bDOTS-35,bDOTS-135,
     bDOTS-235,bDOTS-1235,bDOTS-45,bDOTS-145,bDOTS-245,bDOTS-1245,bDOTS-345,bDOTS-1345,bDOTS-2345,
     bDOTS-12345,bDOTS-6,bDOTS-16,bDOTS-26,bDOTS-126,bDOTS-36,bDOTS-136,bDOTS-236,bDOTS-1236,
     bDOTS-46,bDOTS-146,bDOTS-246,bDOTS-1246,bDOTS-346,bDOTS-1346,bDOTS-2346,bDOTS-12346,bDOTS-56,
     bDOTS-156,bDOTS-256,bDOTS-1256,bDOTS-356,bDOTS-1356,bDOTS-2356,bDOTS-12356,bDOTS-456,
     bDOTS-1456,bDOTS-2456,bDOTS-12456,bDOTS-3456,bDOTS-13456,bDOTS-23456,bDOTS-123456,bDOTS-7,
     bDOTS-17,bDOTS-27,bDOTS-127,bDOTS-37,bDOTS-137,bDOTS-237,bDOTS-1237,bDOTS-47,bDOTS-147,
     bDOTS-247,bDOTS-1247,bDOTS-347,bDOTS-1347,bDOTS-2347,bDOTS-12347,bDOTS-57,bDOTS-157,bDOTS-257,
     bDOTS-1257,bDOTS-357,bDOTS-1357,bDOTS-2357,bDOTS-12357,bDOTS-457,bDOTS-1457,bDOTS-2457,
     bDOTS-12457,bDOTS-3457,bDOTS-13457,bDOTS-23457,bDOTS-123457,bDOTS-67,bDOTS-167,bDOTS-267,
     bDOTS-1267,bDOTS-367,bDOTS-1367,bDOTS-2367,bDOTS-12367,bDOTS-467,bDOTS-1467,bDOTS-2467,
     bDOTS-12467,bDOTS-3467,bDOTS-13467,bDOTS-23467,bDOTS-123467,bDOTS-567,bDOTS-1567,bDOTS-2567,
     bDOTS-12567,bDOTS-3567,bDOTS-13567,bDOTS-23567,bDOTS-123567,bDOTS-4567,bDOTS-14567,bDOTS-24567,
     bDOTS-124567,bDOTS-34567,bDOTS-134567,bDOTS-234567,bDOTS-1234567,bDOTS-8,bDOTS-18,bDOTS-28,
     bDOTS-128,bDOTS-38,bDOTS-138,bDOTS-238,bDOTS-1238,bDOTS-48,bDOTS-148,bDOTS-248,bDOTS-1248,
     bDOTS-348,bDOTS-1348,bDOTS-2348,bDOTS-12348,bDOTS-58,bDOTS-158,bDOTS-258,bDOTS-1258,bDOTS-358,
     bDOTS-1358,bDOTS-2358,bDOTS-12358,bDOTS-458,bDOTS-1458,bDOTS-2458,bDOTS-12458,bDOTS-3458,
     bDOTS-13458,bDOTS-23458,bDOTS-123458,bDOTS-68,bDOTS-168,bDOTS-268,bDOTS-1268,bDOTS-368,
     bDOTS-1368,bDOTS-2368,bDOTS-12368,bDOTS-468,bDOTS-1468,bDOTS-2468,bDOTS-12468,bDOTS-3468,
     bDOTS-13468,bDOTS-23468,bDOTS-123468,bDOTS-568,bDOTS-1568,bDOTS-2568,bDOTS-12568,bDOTS-3568,
     bDOTS-13568,bDOTS-23568,bDOTS-123568,bDOTS-4568,bDOTS-14568,bDOTS-24568,bDOTS-124568,
     bDOTS-34568,bDOTS-134568,bDOTS-234568,bDOTS-1234568,bDOTS-78,bDOTS-178,bDOTS-278,bDOTS-1278,
     bDOTS-378,bDOTS-1378,bDOTS-2378,bDOTS-12378,bDOTS-478,bDOTS-1478,bDOTS-2478,bDOTS-12478,
     bDOTS-3478,bDOTS-13478,bDOTS-23478,bDOTS-123478,bDOTS-578,bDOTS-1578,bDOTS-2578,bDOTS-12578,
     bDOTS-3578,bDOTS-13578,bDOTS-23578,bDOTS-123578,bDOTS-4578,bDOTS-14578,bDOTS-24578,
     bDOTS-124578,bDOTS-34578,bDOTS-134578,bDOTS-234578,bDOTS-1234578,bDOTS-678,bDOTS-1678,
     bDOTS-2678,bDOTS-12678,bDOTS-3678,bDOTS-13678,bDOTS-23678,bDOTS-123678,bDOTS-4678,bDOTS-14678,
     bDOTS-24678,bDOTS-124678,bDOTS-34678,bDOTS-134678,bDOTS-234678,bDOTS-1234678,bDOTS-5678,
     bDOTS-15678,bDOTS-25678,bDOTS-125678,bDOTS-35678,bDOTS-135678,bDOTS-235678,bDOTS-1235678,
     bDOTS-45678,bDOTS-145678,bDOTS-245678,bDOTS-1245678,bDOTS-345678,bDOTS-1345678,bDOTS-2345678,
     bDOTS-12345678,RIGHTWARDS TWO-HEADED ARROW WITH VERTICAL STROKE,dDOUBLE VERTICAL STROKE,
     LEFTWARDS DOUBLE ARROW WITH VERTICAL STROKE,RIGHTWARDS DOUBLE ARROW WITH VERTICAL STROKE,
     LEFT RIGHT DOUBLE ARROW WITH VERTICAL STROKE,RIGHTWARDS TWO-HEADED ARROW FROM BAR,
     LEFTWARDS DOUBLE ARROW FROM BAR,RIGHTWARDS DOUBLE ARROW FROM BAR,
     DOWNWARDS ARROW WITH HORIZONTAL STROKE,UPWARDS ARROW WITH HORIZONTAL STROKE,aTRIPLE ARROW,
     DOWNWARDS TRIPLE ARROW,LEFTWARDS DOUBLE DASH ARROW,RIGHTWARDS DOUBLE DASH ARROW,
     LEFTWARDS TRIPLE DASH ARROW,RIGHTWARDS TRIPLE DASH ARROW,aTWO-HEADED TRIPLE DASH ARROW,
     aARROW WITH DOTTED STEM,UPWARDS ARROW TO BAR,DOWNWARDS ARROW TO BAR,
     RIGHTWARDS ARROW WITH TAIL WITH VERTICAL STROKE,eDOUBLE VERTICAL STROKE,
     aTWO-HEADED ARROW WITH TAIL,eWITH VERTICAL STROKE,fDOUBLE VERTICAL STROKE,LEFTWARDS ARROW-TAIL,
     RIGHTWARDS ARROW-TAIL,LEFTWARDS DOUBLE ARROW-TAIL,RIGHTWARDS DOUBLE ARROW-TAIL,
     LEFTWARDS ARROW TO BLACK DIAMOND,RIGHTWARDS ARROW TO BLACK DIAMOND,
     LEFTWARDS ARROW FROM BAR TO BLACK DIAMOND,RIGHTWARDS ARROW FROM BAR TO BLACK DIAMOND,
     NORTH WEST AND SOUTH EAST ARROW,aEAST AND SOUTH WEST ARROW,aWEST ARROW WITH HOOK,
     aEAST ARROW WITH HOOK,SOUTH EAST ARROW WITH HOOK,aWEST ARROW WITH HOOK,
     NORTH WEST ARROW AND NORTH EAST ARROW,aEAST ARROW AND SOUTH EAST ARROW,
     SOUTH EAST ARROW AND SOUTH WEST ARROW,aWEST ARROW AND NORTH WEST ARROW,
     RISING DIAGONAL CROSSING FALLING DIAGONAL,FALLING DIAGONAL CROSSING RISING DIAGONAL,
     SOUTH EAST ARROW CROSSING NORTH EAST ARROW,NORTH EAST ARROW CROSSING SOUTH EAST ARROW,
     FALLING DIAGONAL CROSSING NORTH EAST ARROW,RISING DIAGONAL CROSSING SOUTH EAST ARROW,
     NORTH EAST ARROW CROSSING NORTH WEST ARROW,aWEST ARROW CROSSING NORTH EAST ARROW,
     WAVE ARROW POINTING DIRECTLY RIGHT,ARROW POINTING RIGHTWARDS THEN CURVING UPWARDS,eDOWNWARDS,
     bDOWNWARDS THEN CURVING LEFTWARDS,eRIGHTWARDS,RIGHT-SIDE ARC CLOCKWISE ARROW,
     LEFT-SIDE ARC ANTICLOCKWISE ARROW,TOP ARC ANTICLOCKWISE ARROW,BOTTOM ARC ANTICLOCKWISE ARROW,
     TOP ARC CLOCKWISE ARROW WITH MINUS,bANTICLOCKWISE ARROW WITH PLUS,
     LOWER RIGHT SEMICIRCULAR CLOCKWISE ARROW,aLEFT SEMICIRCULAR ANTICLOCKWISE ARROW,
     ANTICLOCKWISE CLOSED CIRCLE ARROW,CLOCKWISE CLOSED CIRCLE ARROW,
     RIGHTWARDS ARROW ABOVE SHORT LEFTWARDS ARROW,LEFTWARDS ARROW ABOVE SHORT RIGHTWARDS ARROW,
     SHORT RIGHTWARDS ARROW ABOVE LEFTWARDS ARROW,RIGHTWARDS ARROW WITH PLUS BELOW,
     LEFTWARDS ARROW WITH PLUS BELOW,RIGHTWARDS ARROW THROUGH X,
     LEFT RIGHT ARROW THROUGH SMALL CIRCLE,UPWARDS TWO-HEADED ARROW FROM SMALL CIRCLE,
     LEFT BARB UP RIGHT BARB DOWN HARPOON,bDOWN RIGHT BARB UP HARPOON,
     UP BARB RIGHT DOWN BARB LEFT HARPOON,bLEFT DOWN BARB RIGHT HARPOON,
     LEFT BARB UP RIGHT BARB UP HARPOON,UP BARB RIGHT DOWN BARB RIGHT HARPOON,
     LEFT BARB DOWN RIGHT BARB DOWN HARPOON,UP BARB LEFT DOWN BARB LEFT HARPOON,
     LEFTWARDS HARPOON WITH BARB UP TO BAR,RIGHTWARDS HARPOON WITH BARB UP TO BAR,
     UPWARDS HARPOON WITH BARB RIGHT TO BAR,DOWNWARDS HARPOON WITH BARB RIGHT TO BAR,
     LEFTWARDS HARPOON WITH BARB DOWN TO BAR,RIGHTWARDS HARPOON WITH BARB DOWN TO BAR,
     UPWARDS HARPOON WITH BARB LEFT TO BAR,DOWNWARDS HARPOON WITH BARB LEFT TO BAR,
     LEFTWARDS HARPOON WITH BARB UP FROM BAR,RIGHTWARDS HARPOON WITH BARB UP FROM BAR,
     UPWARDS HARPOON WITH BARB RIGHT FROM BAR,DOWNWARDS HARPOON WITH BARB RIGHT FROM BAR,
     LEFTWARDS HARPOON WITH BARB DOWN FROM BAR,RIGHTWARDS HARPOON WITH BARB DOWN FROM BAR,
     UPWARDS HARPOON WITH BARB LEFT FROM BAR,DOWNWARDS HARPOON WITH BARB LEFT FROM BAR,
     LEFTWARDS HARPOON WITH BARB UP ABOVE LEFTWARDS HARPOON WITH BARB DOWN,
     UPWARDS HARPOON WITH BARB LEFT BESIDE UPWARDS HARPOON WITH BARB RIGHT,
     RIGHTWARDS HARPOON WITH BARB UP ABOVE RIGHTWARDS HARPOON WITH BARB DOWN,
     DOWNWARDS HARPOON WITH BARB LEFT BESIDE DOWNWARDS HARPOON WITH BARB RIGHT,
     LEFTWARDS HARPOON WITH BARB UP ABOVE RIGHTWARDS HARPOON WITH BARB UP,
     dDOWN ABOVE RIGHTWARDS HARPOON WITH BARB DOWN,
     RIGHTWARDS HARPOON WITH BARB UP ABOVE LEFTWARDS HARPOON WITH BARB UP,
     dDOWN ABOVE LEFTWARDS HARPOON WITH BARB DOWN,LEFTWARDS HARPOON WITH BARB UP ABOVE LONG DASH,
     dDOWN BELOW LONG DASH,RIGHTWARDS HARPOON WITH BARB UP ABOVE LONG DASH,dDOWN BELOW LONG DASH,
     UPWARDS HARPOON WITH BARB LEFT BESIDE DOWNWARDS HARPOON WITH BARB RIGHT,
     DOWNWARDS HARPOON WITH BARB LEFT BESIDE UPWARDS HARPOON WITH BARB RIGHT,
     RIGHT DOUBLE ARROW WITH ROUNDED HEAD,EQUALS SIGN ABOVE RIGHTWARDS ARROW,
     TILDE OPERATOR ABOVE RIGHTWARDS ARROW,LEFTWARDS ARROW ABOVE TILDE OPERATOR,
     RIGHTWARDS ARROW ABOVE TILDE OPERATOR,cALMOST EQUAL TO,LESS-THAN ABOVE LEFTWARDS ARROW,
     LEFTWARDS ARROW THROUGH LESS-THAN,GREATER-THAN ABOVE RIGHTWARDS ARROW,
     SUBSET ABOVE RIGHTWARDS ARROW,LEFTWARDS ARROW THROUGH SUBSET,SUPERSET ABOVE LEFTWARDS ARROW,
     LEFT FISH TAIL,RIGHT FISH TAIL,UP FISH TAIL,DOWN FISH TAIL,TRIPLE VERTICAL BAR DELIMITER,
     Z NOTATION SPOT,bTYPE COLON,LEFT WHITE CURLY BRACKET,RIGHT WHITE CURLY BRACKET,
     LEFT WHITE PARENTHESIS,RIGHT WHITE PARENTHESIS,Z NOTATION LEFT IMAGE BRACKET,
     bRIGHT IMAGE BRACKET,bLEFT BINDING BRACKET,bRIGHT BINDING BRACKET,
     LEFT SQUARE BRACKET WITH UNDERBAR,RIGHT SQUARE BRACKET WITH UNDERBAR,
     LEFT SQUARE BRACKET WITH TICK IN TOP CORNER,RIGHT SQUARE BRACKET WITH TICK IN BOTTOM CORNER,
     LEFT SQUARE BRACKET WITH TICK IN BOTTOM CORNER,RIGHT SQUARE BRACKET WITH TICK IN TOP CORNER,
     LEFT ANGLE BRACKET WITH DOT,RIGHT ANGLE BRACKET WITH DOT,LEFT ARC LESS-THAN BRACKET,
     RIGHT ARC GREATER-THAN BRACKET,DOUBLE LEFT ARC GREATER-THAN BRACKET,
     aRIGHT ARC LESS-THAN BRACKET,LEFT BLACK TORTOISE SHELL BRACKET,
     RIGHT BLACK TORTOISE SHELL BRACKET,DOTTED FENCE,VERTICAL ZIGZAG LINE,
     MEASURED ANGLE OPENING LEFT,RIGHT ANGLE VARIANT WITH SQUARE,MEASURED RIGHT ANGLE WITH DOT,
     ANGLE WITH S INSIDE,ACUTE ANGLE,SPHERICAL ANGLE OPENING LEFT,cUP,TURNED ANGLE,REVERSED ANGLE,
     ANGLE WITH UNDERBAR,REVERSED ANGLE WITH UNDERBAR,OBLIQUE ANGLE OPENING UP,cDOWN,
     MEASURED ANGLE WITH OPEN ARM ENDING IN ARROW POINTING UP AND RIGHT,kLEFT,iDOWN AND RIGHT,kLEFT,
     iRIGHT AND UP,iLEFT AND UP,iRIGHT AND DOWN,iLEFT AND DOWN,REVERSED EMPTY SET,
     EMPTY SET WITH OVERBAR,cSMALL CIRCLE ABOVE,cRIGHT ARROW ABOVE,cLEFT ARROW ABOVE,
     CIRCLE WITH HORIZONTAL BAR,CIRCLED VERTICAL BAR,aPARALLEL,aREVERSE SOLIDUS,aPERPENDICULAR,
     CIRCLE DIVIDED BY HORIZONTAL BAR AND TOP HALF DIVIDED BY VERTICAL BAR,aWITH SUPERIMPOSED X,
     CIRCLED ANTICLOCKWISE-ROTATED DIVISION SIGN,UP ARROW THROUGH CIRCLE,CIRCLED WHITE BULLET,
     aBULLET,aLESS-THAN,aGREATER-THAN,CIRCLE WITH SMALL CIRCLE TO THE RIGHT,
     bTWO HORIZONTAL STROKES TO THE RIGHT,SQUARED RISING DIAGONAL SLASH,aFALLING DIAGONAL SLASH,
     aASTERISK,aSMALL CIRCLE,aSQUARE,TWO JOINED SQUARES,TRIANGLE WITH DOT ABOVE,bUNDERBAR,
     S IN TRIANGLE,TRIANGLE WITH SERIFS AT BOTTOM,RIGHT TRIANGLE ABOVE LEFT TRIANGLE,
     LEFT TRIANGLE BESIDE VERTICAL BAR,VERTICAL BAR BESIDE RIGHT TRIANGLE,
     BOWTIE WITH LEFT HALF BLACK,bRIGHT HALF BLACK,BLACK BOWTIE,TIMES WITH LEFT HALF BLACK,
     bRIGHT HALF BLACK,WHITE HOURGLASS,BLACK HOURGLASS,LEFT WIGGLY FENCE,RIGHT WIGGLY FENCE,
     LEFT DOUBLE WIGGLY FENCE,RIGHT DOUBLE WIGGLY FENCE,INCOMPLETE INFINITY,TIE OVER INFINITY,
     INFINITY NEGATED WITH VERTICAL BAR,DOUBLE-ENDED MULTIMAP,SQUARE WITH CONTOURED OUTLINE,
     INCREASES AS,SHUFFLE PRODUCT,EQUALS SIGN AND SLANTED PARALLEL,eWITH TILDE ABOVE,
     IDENTICAL TO AND SLANTED PARALLEL,GLEICH STARK,THERMODYNAMIC,
     DOWN-POINTING TRIANGLE WITH LEFT HALF BLACK,cRIGHT HALF BLACK,BLACK DIAMOND WITH DOWN ARROW,
     aLOZENGE,WHITE CIRCLE WITH DOWN ARROW,BLACK CIRCLE WITH DOWN ARROW,ERROR-BARRED WHITE SQUARE,
     aBLACK SQUARE,aWHITE DIAMOND,aBLACK DIAMOND,aWHITE CIRCLE,aBLACK CIRCLE,RULE-DELAYED,
     REVERSE SOLIDUS OPERATOR,SOLIDUS WITH OVERBAR,REVERSE SOLIDUS WITH HORIZONTAL STROKE,
     BIG SOLIDUS,aREVERSE SOLIDUS,DOUBLE PLUS,TRIPLE PLUS,LEFT-POINTING CURVED ANGLE BRACKET,
     RIGHT-POINTING CURVED ANGLE BRACKET,TINY,MINY,N-ARY CIRCLED DOT OPERATOR,bPLUS OPERATOR,
     bTIMES OPERATOR,aUNION OPERATOR WITH DOT,dPLUS,aSQUARE INTERSECTION OPERATOR,bUNION OPERATOR,
     TWO LOGICAL AND OPERATOR,bOR OPERATOR,N-ARY TIMES OPERATOR,MODULO TWO SUM,
     SUMMATION WITH INTEGRAL,QUADRUPLE INTEGRAL OPERATOR,FINITE PART INTEGRAL,
     INTEGRAL WITH DOUBLE STROKE,aAVERAGE WITH SLASH,CIRCULATION FUNCTION,ANTICLOCKWISE INTEGRATION,
     LINE INTEGRATION WITH RECTANGULAR PATH AROUND POLE,cSEMICIRCULAR PATH AROUND POLE,
     bNOT INCLUDING THE POLE,INTEGRAL AROUND A POINT OPERATOR,QUATERNION INTEGRAL OPERATOR,
     INTEGRAL WITH LEFTWARDS ARROW WITH HOOK,bTIMES SIGN,bINTERSECTION,bUNION,bOVERBAR,bUNDERBAR,
     JOIN,LARGE LEFT TRIANGLE OPERATOR,Z NOTATION SCHEMA COMPOSITION,cPIPING,cPROJECTION,
     PLUS SIGN WITH SMALL CIRCLE ABOVE,cCIRCUMFLEX ACCENT ABOVE,cTILDE ABOVE,cDOT BELOW,
     cTILDE BELOW,cSUBSCRIPT TWO,cBLACK TRIANGLE,MINUS SIGN WITH COMMA ABOVE,cDOT BELOW,
     cFALLING DOTS,cRISING DOTS,PLUS SIGN IN LEFT HALF CIRCLE,cRIGHT HALF CIRCLE,
     VECTOR OR CROSS PRODUCT,MULTIPLICATION SIGN WITH DOT ABOVE,cUNDERBAR,
     SEMIDIRECT PRODUCT WITH BOTTOM CLOSED,SMASH PRODUCT,MULTIPLICATION SIGN IN LEFT HALF CIRCLE,
     cRIGHT HALF CIRCLE,CIRCLED MULTIPLICATION SIGN WITH CIRCUMFLEX ACCENT,
     MULTIPLICATION SIGN IN DOUBLE CIRCLE,CIRCLED DIVISION SIGN,PLUS SIGN IN TRIANGLE,
     MINUS SIGN IN TRIANGLE,MULTIPLICATION SIGN IN TRIANGLE,INTERIOR PRODUCT,
     RIGHTHAND INTERIOR PRODUCT,Z NOTATION RELATIONAL COMPOSITION,AMALGAMATION OR COPRODUCT,
     INTERSECTION WITH DOT,UNION WITH MINUS SIGN,bOVERBAR,INTERSECTION WITH OVERBAR,bLOGICAL AND,
     UNION WITH LOGICAL OR,aABOVE INTERSECTION,INTERSECTION ABOVE UNION,
     UNION ABOVE BAR ABOVE INTERSECTION,INTERSECTION ABOVE BAR ABOVE UNION,
     UNION BESIDE AND JOINED WITH UNION,INTERSECTION BESIDE AND JOINED WITH INTERSECTION,
     CLOSED UNION WITH SERIFS,aINTERSECTION WITH SERIFS,DOUBLE SQUARE INTERSECTION,bUNION,
     CLOSED UNION WITH SERIFS AND SMASH PRODUCT,LOGICAL AND WITH DOT ABOVE,aOR WITH DOT ABOVE,
     DOUBLE LOGICAL AND,bOR,TWO INTERSECTING LOGICAL AND,cOR,SLOPING LARGE OR,bAND,
     LOGICAL OR OVERLAPPING LOGICAL AND,aAND WITH MIDDLE STEM,aOR WITH MIDDLE STEM,
     aAND WITH HORIZONTAL DASH,aOR WITH HORIZONTAL DASH,aAND WITH DOUBLE OVERBAR,cUNDERBAR,
     cDOUBLE UNDERBAR,SMALL VEE WITH UNDERBAR,LOGICAL OR WITH DOUBLE OVERBAR,dUNDERBAR,
     Z NOTATION DOMAIN ANTIRESTRICTION,bRANGE ANTIRESTRICTION,EQUALS SIGN WITH DOT BELOW,
     IDENTICAL WITH DOT ABOVE,TRIPLE HORIZONTAL BAR WITH DOUBLE VERTICAL STROKE,
     dTRIPLE VERTICAL STROKE,TILDE OPERATOR WITH DOT ABOVE,cRISING DOTS,SIMILAR MINUS SIMILAR,
     CONGRUENT WITH DOT ABOVE,EQUALS WITH ASTERISK,ALMOST EQUAL TO WITH CIRCUMFLEX ACCENT,
     APPROXIMATELY EQUAL OR EQUAL TO,EQUALS SIGN ABOVE PLUS SIGN,PLUS SIGN ABOVE EQUALS SIGN,
     EQUALS SIGN ABOVE TILDE OPERATOR,DOUBLE COLON EQUAL,TWO CONSECUTIVE EQUALS SIGNS,
     THREE CONSECUTIVE EQUALS SIGNS,EQUALS SIGN WITH TWO DOTS ABOVE AND TWO DOTS BELOW,
     EQUIVALENT WITH FOUR DOTS ABOVE,LESS-THAN WITH CIRCLE INSIDE,GREATER-THAN WITH CIRCLE INSIDE,
     LESS-THAN WITH QUESTION MARK ABOVE,GREATER-THAN WITH QUESTION MARK ABOVE,
     LESS-THAN OR SLANTED EQUAL TO,GREATER-THAN OR SLANTED EQUAL TO,
     LESS-THAN OR SLANTED EQUAL TO WITH DOT INSIDE,GREATER-THAN OR SLANTED EQUAL TO WITH DOT INSIDE,
     LESS-THAN OR SLANTED EQUAL TO WITH DOT ABOVE,GREATER-THAN OR SLANTED EQUAL TO WITH DOT ABOVE,
     LESS-THAN OR SLANTED EQUAL TO WITH DOT ABOVE RIGHT,
     GREATER-THAN OR SLANTED EQUAL TO WITH DOT ABOVE LEFT,LESS-THAN OR APPROXIMATE,
     GREATER-THAN OR APPROXIMATE,LESS-THAN AND SINGLE-LINE NOT EQUAL TO,
     GREATER-THAN AND SINGLE-LINE NOT EQUAL TO,LESS-THAN AND NOT APPROXIMATE,
     GREATER-THAN AND NOT APPROXIMATE,LESS-THAN ABOVE DOUBLE-LINE EQUAL ABOVE GREATER-THAN,
     GREATER-THAN ABOVE DOUBLE-LINE EQUAL ABOVE LESS-THAN,LESS-THAN ABOVE SIMILAR OR EQUAL,
     GREATER-THAN ABOVE SIMILAR OR EQUAL,LESS-THAN ABOVE SIMILAR ABOVE GREATER-THAN,
     GREATER-THAN ABOVE SIMILAR ABOVE LESS-THAN,
     LESS-THAN ABOVE GREATER-THAN ABOVE DOUBLE-LINE EQUAL,
     GREATER-THAN ABOVE LESS-THAN ABOVE DOUBLE-LINE EQUAL,
     LESS-THAN ABOVE SLANTED EQUAL ABOVE GREATER-THAN ABOVE SLANTED EQUAL,
     GREATER-THAN ABOVE SLANTED EQUAL ABOVE LESS-THAN ABOVE SLANTED EQUAL,
     SLANTED EQUAL TO OR LESS-THAN,dGREATER-THAN,dLESS-THAN WITH DOT INSIDE,
     dGREATER-THAN WITH DOT INSIDE,DOUBLE-LINE EQUAL TO OR LESS-THAN,dGREATER-THAN,
     aSLANTED EQUAL TO OR LESS-THAN,eGREATER-THAN,SIMILAR OR LESS-THAN,bGREATER-THAN,
     aABOVE LESS-THAN ABOVE EQUALS SIGN,bGREATER-THAN ABOVE EQUALS SIGN,DOUBLE NESTED LESS-THAN,
     bGREATER-THAN,bLESS-THAN WITH UNDERBAR,GREATER-THAN OVERLAPPING LESS-THAN,aBESIDE LESS-THAN,
     LESS-THAN CLOSED BY CURVE,GREATER-THAN CLOSED BY CURVE,
     LESS-THAN CLOSED BY CURVE ABOVE SLANTED EQUAL,GREATER-THAN CLOSED BY CURVE ABOVE SLANTED EQUAL,
     SMALLER THAN,LARGER THAN,SMALLER THAN OR EQUAL TO,LARGER THAN OR EQUAL TO,
     EQUALS SIGN WITH BUMPY ABOVE,PRECEDES ABOVE SINGLE-LINE EQUALS SIGN,
     SUCCEEDS ABOVE SINGLE-LINE EQUALS SIGN,PRECEDES ABOVE SINGLE-LINE NOT EQUAL TO,
     SUCCEEDS ABOVE SINGLE-LINE NOT EQUAL TO,PRECEDES ABOVE EQUALS SIGN,SUCCEEDS ABOVE EQUALS SIGN,
     PRECEDES ABOVE NOT EQUAL TO,SUCCEEDS ABOVE NOT EQUAL TO,PRECEDES ABOVE ALMOST EQUAL TO,
     SUCCEEDS ABOVE ALMOST EQUAL TO,PRECEDES ABOVE NOT ALMOST EQUAL TO,
     SUCCEEDS ABOVE NOT ALMOST EQUAL TO,DOUBLE PRECEDES,aSUCCEEDS,SUBSET WITH DOT,SUPERSET WITH DOT,
     SUBSET WITH PLUS SIGN BELOW,SUPERSET WITH PLUS SIGN BELOW,
     SUBSET WITH MULTIPLICATION SIGN BELOW,SUPERSET WITH MULTIPLICATION SIGN BELOW,
     SUBSET OF OR EQUAL TO WITH DOT ABOVE,SUPERSET OF OR EQUAL TO WITH DOT ABOVE,
     SUBSET OF ABOVE EQUALS SIGN,SUPERSET OF ABOVE EQUALS SIGN,SUBSET OF ABOVE TILDE OPERATOR,
     SUPERSET OF ABOVE TILDE OPERATOR,SUBSET OF ABOVE ALMOST EQUAL TO,
     SUPERSET OF ABOVE ALMOST EQUAL TO,SUBSET OF ABOVE NOT EQUAL TO,SUPERSET OF ABOVE NOT EQUAL TO,
     SQUARE LEFT OPEN BOX OPERATOR,aRIGHT OPEN BOX OPERATOR,CLOSED SUBSET,aSUPERSET,
     aSUBSET OR EQUAL TO,aSUPERSET OR EQUAL TO,SUBSET ABOVE SUPERSET,SUPERSET ABOVE SUBSET,
     SUBSET ABOVE SUBSET,SUPERSET ABOVE SUPERSET,aBESIDE SUBSET,bAND JOINED BY DASH WITH SUBSET,
     ELEMENT OF OPENING DOWNWARDS,PITCHFORK WITH TEE TOP,TRANSVERSAL INTERSECTION,FORKING,
     NONFORKING,SHORT LEFT TACK,aDOWN TACK,aUP TACK,PERPENDICULAR WITH S,
     VERTICAL BAR TRIPLE RIGHT TURNSTILE,DOUBLE VERTICAL BAR LEFT TURNSTILE,
     VERTICAL BAR DOUBLE LEFT TURNSTILE,DOUBLE VERTICAL BAR DOUBLE LEFT TURNSTILE,
     LONG DASH FROM LEFT MEMBER OF DOUBLE VERTICAL,SHORT DOWN TACK WITH OVERBAR,
     aUP TACK WITH UNDERBAR,cABOVE SHORT DOWN TACK,DOUBLE DOWN TACK,aUP TACK,aSTROKE NOT SIGN,
     REVERSED DOUBLE STROKE NOT SIGN,DOES NOT DIVIDE WITH REVERSED NEGATION SLASH,
     VERTICAL LINE WITH CIRCLE ABOVE,dBELOW,DOWN TACK WITH CIRCLE BELOW,
     PARALLEL WITH HORIZONTAL STROKE,bTILDE OPERATOR,TRIPLE VERTICAL BAR BINARY RELATION,
     cWITH HORIZONTAL STROKE,aCOLON OPERATOR,aNESTED LESS-THAN,bGREATER-THAN,
     DOUBLE-LINE SLANTED LESS-THAN OR EQUAL TO,bGREATER-THAN OR EQUAL TO,
     TRIPLE SOLIDUS BINARY RELATION,LARGE TRIPLE VERTICAL BAR OPERATOR,DOUBLE SOLIDUS OPERATOR,
     WHITE VERTICAL BAR,N-ARY WHITE VERTICAL BAR,NORTH EAST WHITE ARROW,aWEST WHITE ARROW,
     SOUTH EAST WHITE ARROW,aWEST WHITE ARROW,LEFT RIGHT WHITE ARROW,LEFTWARDS BLACK ARROW,
     UPWARDS BLACK ARROW,DOWNWARDS BLACK ARROW,NORTH EAST BLACK ARROW,aWEST BLACK ARROW,
     SOUTH EAST BLACK ARROW,aWEST BLACK ARROW,LEFT RIGHT BLACK ARROW,UP DOWN BLACK ARROW,
     RIGHTWARDS ARROW WITH TIP DOWNWARDS,dUPWARDS,LEFTWARDS ARROW WITH TIP DOWNWARDS,dUPWARDS,
     SQUARE WITH TOP HALF BLACK,bBOTTOM HALF BLACK,bUPPER RIGHT DIAGONAL HALF BLACK,
     bLOWER LEFT DIAGONAL HALF BLACK,DIAMOND WITH LEFT HALF BLACK,bRIGHT HALF BLACK,bTOP HALF BLACK,
     bBOTTOM HALF BLACK,DOTTED SQUARE,BLACK LARGE SQUARE,WHITE LARGE SQUARE,BLACK VERY SMALL SQUARE,
     WHITE VERY SMALL SQUARE,BLACK PENTAGON,WHITE PENTAGON,aHEXAGON,BLACK HEXAGON,
     HORIZONTAL BLACK HEXAGON,BLACK LARGE CIRCLE,aMEDIUM DIAMOND,WHITE MEDIUM DIAMOND,
     BLACK MEDIUM LOZENGE,WHITE MEDIUM LOZENGE,BLACK SMALL DIAMOND,bLOZENGE,WHITE SMALL LOZENGE,
     BLACK HORIZONTAL ELLIPSE,WHITE HORIZONTAL ELLIPSE,BLACK VERTICAL ELLIPSE,
     WHITE VERTICAL ELLIPSE,LEFT ARROW WITH SMALL CIRCLE,THREE LEFTWARDS ARROWS,
     LEFT ARROW WITH CIRCLED PLUS,LONG LEFTWARDS SQUIGGLE ARROW,
     LEFTWARDS TWO-HEADED ARROW WITH VERTICAL STROKE,dDOUBLE VERTICAL STROKE,cFROM BAR,
     bTRIPLE DASH ARROW,aARROW WITH DOTTED STEM,cTAIL WITH VERTICAL STROKE,eDOUBLE VERTICAL STROKE,
     aTWO-HEADED ARROW WITH TAIL,eWITH VERTICAL STROKE,fDOUBLE VERTICAL STROKE,aARROW THROUGH X,
     WAVE ARROW POINTING DIRECTLY LEFT,EQUALS SIGN ABOVE LEFTWARDS ARROW,
     REVERSE TILDE OPERATOR ABOVE LEFTWARDS ARROW,LEFTWARDS ARROW ABOVE REVERSE ALMOST EQUAL TO,
     RIGHTWARDS ARROW THROUGH GREATER-THAN,cSUPERSET,LEFTWARDS QUADRUPLE ARROW,
     RIGHTWARDS QUADRUPLE ARROW,REVERSE TILDE OPERATOR ABOVE RIGHTWARDS ARROW,
     RIGHTWARDS ARROW ABOVE REVERSE ALMOST EQUAL TO,TILDE OPERATOR ABOVE LEFTWARDS ARROW,
     LEFTWARDS ARROW ABOVE ALMOST EQUAL TO,cREVERSE TILDE OPERATOR,
     RIGHTWARDS ARROW ABOVE REVERSE TILDE OPERATOR,DOWNWARDS TRIANGLE-HEADED ZIGZAG ARROW,
     SHORT SLANTED NORTH ARROW,aBACKSLANTED SOUTH ARROW,WHITE MEDIUM STAR,BLACK SMALL STAR,
     WHITE SMALL STAR,BLACK RIGHT-POINTING PENTAGON,WHITE RIGHT-POINTING PENTAGON,
     HEAVY LARGE CIRCLE,aOVAL WITH OVAL INSIDE,aCIRCLE WITH CIRCLE INSIDE,aCIRCLE,aCIRCLED SALTIRE,
     SLANTED NORTH ARROW WITH HOOKED HEAD,BACKSLANTED SOUTH ARROW WITH HOOKED TAIL,
     SLANTED NORTH ARROW WITH HORIZONTAL TAIL,BACKSLANTED SOUTH ARROW WITH HORIZONTAL TAIL,
     BENT ARROW POINTING DOWNWARDS THEN NORTH EAST,
     SHORT BENT ARROW POINTING DOWNWARDS THEN NORTH EAST,LEFTWARDS TRIANGLE-HEADED ARROW,
     UPWARDS TRIANGLE-HEADED ARROW,RIGHTWARDS TRIANGLE-HEADED ARROW,DOWNWARDS TRIANGLE-HEADED ARROW,
     LEFT RIGHT TRIANGLE-HEADED ARROW,UP DOWN TRIANGLE-HEADED ARROW,
     NORTH WEST TRIANGLE-HEADED ARROW,aEAST TRIANGLE-HEADED ARROW,SOUTH EAST TRIANGLE-HEADED ARROW,
     aWEST TRIANGLE-HEADED ARROW,LEFTWARDS TRIANGLE-HEADED DASHED ARROW,
     UPWARDS TRIANGLE-HEADED DASHED ARROW,RIGHTWARDS TRIANGLE-HEADED DASHED ARROW,
     DOWNWARDS TRIANGLE-HEADED DASHED ARROW,CLOCKWISE TRIANGLE-HEADED OPEN CIRCLE ARROW,
     ANTICLOCKWISE TRIANGLE-HEADED OPEN CIRCLE ARROW,LEFTWARDS TRIANGLE-HEADED ARROW TO BAR,
     UPWARDS TRIANGLE-HEADED ARROW TO BAR,RIGHTWARDS TRIANGLE-HEADED ARROW TO BAR,
     DOWNWARDS TRIANGLE-HEADED ARROW TO BAR,,,NORTH WEST TRIANGLE-HEADED ARROW TO BAR,
     aEAST TRIANGLE-HEADED ARROW TO BAR,SOUTH EAST TRIANGLE-HEADED ARROW TO BAR,
     aWEST TRIANGLE-HEADED ARROW TO BAR,
     LEFTWARDS TRIANGLE-HEADED ARROW WITH DOUBLE HORIZONTAL STROKE,
     UPWARDS TRIANGLE-HEADED ARROW WITH DOUBLE HORIZONTAL STROKE,
     RIGHTWARDS TRIANGLE-HEADED ARROW WITH DOUBLE HORIZONTAL STROKE,
     DOWNWARDS TRIANGLE-HEADED ARROW WITH DOUBLE HORIZONTAL STROKE,HORIZONTAL TAB KEY,
     VERTICAL TAB KEY,LEFTWARDS TRIANGLE-HEADED ARROW OVER RIGHTWARDS TRIANGLE-HEADED ARROW,
     UPWARDS TRIANGLE-HEADED ARROW LEFTWARDS OF DOWNWARDS TRIANGLE-HEADED ARROW,
     RIGHTWARDS TRIANGLE-HEADED ARROW OVER LEFTWARDS TRIANGLE-HEADED ARROW,
     DOWNWARDS TRIANGLE-HEADED ARROW LEFTWARDS OF UPWARDS TRIANGLE-HEADED ARROW,
     LEFTWARDS TRIANGLE-HEADED PAIRED ARROWS,UPWARDS TRIANGLE-HEADED PAIRED ARROWS,
     RIGHTWARDS TRIANGLE-HEADED PAIRED ARROWS,DOWNWARDS TRIANGLE-HEADED PAIRED ARROWS,
     LEFTWARDS BLACK CIRCLED WHITE ARROW,UPWARDS BLACK CIRCLED WHITE ARROW,
     RIGHTWARDS BLACK CIRCLED WHITE ARROW,DOWNWARDS BLACK CIRCLED WHITE ARROW,
     ANTICLOCKWISE TRIANGLE-HEADED RIGHT U-SHAPED ARROW,bBOTTOM U-SHAPED ARROW,bLEFT U-SHAPED ARROW,
     bTOP U-SHAPED ARROW,RETURN LEFT,aRIGHT,NEWLINE LEFT,aRIGHT,
     FOUR CORNER ARROWS CIRCLING ANTICLOCKWISE,RIGHTWARDS BLACK ARROW,,
     SYMBOL FOR TYPE A ELECTRONICS,THREE-D TOP-LIGHTED LEFTWARDS EQUILATERAL ARROWHEAD,
     aRIGHT-LIGHTED UPWARDS EQUILATERAL ARROWHEAD,aTOP-LIGHTED RIGHTWARDS EQUILATERAL ARROWHEAD,
     aLEFT-LIGHTED DOWNWARDS EQUILATERAL ARROWHEAD,BLACK LEFTWARDS EQUILATERAL ARROWHEAD,
     aUPWARDS EQUILATERAL ARROWHEAD,aRIGHTWARDS EQUILATERAL ARROWHEAD,
     aDOWNWARDS EQUILATERAL ARROWHEAD,DOWNWARDS TRIANGLE-HEADED ARROW WITH LONG TIP LEFTWARDS,
     fRIGHTWARDS,UPWARDS TRIANGLE-HEADED ARROW WITH LONG TIP LEFTWARDS,fRIGHTWARDS,
     LEFTWARDS TRIANGLE-HEADED ARROW WITH LONG TIP UPWARDS,
     RIGHTWARDS TRIANGLE-HEADED ARROW WITH LONG TIP UPWARDS,
     LEFTWARDS TRIANGLE-HEADED ARROW WITH LONG TIP DOWNWARDS,
     RIGHTWARDS TRIANGLE-HEADED ARROW WITH LONG TIP DOWNWARDS,
     BLACK CURVED DOWNWARDS AND LEFTWARDS ARROW,dRIGHTWARDS ARROW,bUPWARDS AND LEFTWARDS ARROW,
     dRIGHTWARDS ARROW,bLEFTWARDS AND UPWARDS ARROW,bRIGHTWARDS AND UPWARDS ARROW,
     bLEFTWARDS AND DOWNWARDS ARROW,bRIGHTWARDS AND DOWNWARDS ARROW,RIBBON ARROW DOWN LEFT,cRIGHT,
     bUP LEFT,cRIGHT,bLEFT UP,bRIGHT UP,bLEFT DOWN,bRIGHT DOWN,
     UPWARDS WHITE ARROW FROM BAR WITH HORIZONTAL BAR,UP ARROWHEAD IN A RECTANGLE BOX,
     OVERLAPPING WHITE SQUARES,bAND BLACK SQUARES,aBLACK SQUARES,BALLOT BOX WITH LIGHT X,CIRCLED X,
     aBOLD X,BLACK SQUARE CENTRED,aDIAMOND CENTRED,TURNED BLACK PENTAGON,HORIZONTAL BLACK OCTAGON,
     BLACK OCTAGON,aMEDIUM UP-POINTING TRIANGLE CENTRED,bDOWN-POINTING TRIANGLE CENTRED,
     bLEFT-POINTING TRIANGLE CENTRED,bRIGHT-POINTING TRIANGLE CENTRED,NEPTUNE FORM TWO,
     TOP HALF BLACK CIRCLE,BOTTOM HALF BLACK CIRCLE,LIGHT FOUR POINTED BLACK CUSP,
     ROTATED LIGHT FOUR POINTED BLACK CUSP,WHITE FOUR POINTED CUSP,ROTATED WHITE FOUR POINTED CUSP,
     SQUARE POSITION INDICATOR,UNCERTAINTY SIGN,GROUP MARK,PLUTO FORM TWO,bTHREE,bFOUR,bFIVE,
     TRANSPLUTO,PROSERPINA,ASTRAEA,HYGIEA,PHOLUS,NESSUS,WHITE MOON SELENA,BLACK DIAMOND ON CROSS,
     TRUE LIGHT MOON ARTA,CUPIDO,HADES,ZEUS,KRONOS,APOLLON,ADMETOS,VULCANUS,POSEIDON,
     LEFT HALF BLACK STAR,RIGHT HALF BLACK STAR,STAR WITH LEFT HALF BLACK,bRIGHT HALF BLACK,
     LEFTWARDS TWO-HEADED ARROW WITH TRIANGLE ARROWHEADS,
     UPWARDS TWO-HEADED ARROW WITH TRIANGLE ARROWHEADS,
     RIGHTWARDS TWO-HEADED ARROW WITH TRIANGLE ARROWHEADS,
     DOWNWARDS TWO-HEADED ARROW WITH TRIANGLE ARROWHEADS,ERIS FORM ONE,bTWO,SEDNA,
     RUSSIAN ASTROLOGICAL SYMBOL VIGINTILE,cNOVILE,cQUINTILE,cBINOVILE,cSENTAGON,cTREDECILE,
     EQUALS SIGN WITH INFINITY BELOW,UNITED SYMBOL,SEPARATED SYMBOL,DOUBLED SYMBOL,PASSED SYMBOL,
     REVERSED RIGHT ANGLE,HELLSCHREIBER PAUSE SYMBOL,GLAGOLITIC CAPITAL LETTER AZU,cBUKY,cVEDE,
     cGLAGOLI,cDOBRO,cYESTU,cZHIVETE,cDZELO,cZEMLJA,cIZHE,cINITIAL IZHE,cI,cDJERVI,cKAKO,cLJUDIJE,
     cMYSLITE,cNASHI,cONU,cPOKOJI,cRITSI,cSLOVO,cTVRIDO,cUKU,cFRITU,cHERU,cOTU,cPE,cSHTA,cTSI,
     cCHRIVI,cSHA,cYERU,cYERI,cYATI,cSPIDERY HA,cYU,cSMALL YUS,eWITH TAIL,cYO,cIOTATED SMALL YUS,
     cBIG YUS,cIOTATED BIG YUS,cFITA,cIZHITSA,cSHTAPIC,cTROKUTASTI A,cLATINATE MYSLITE,
     cCAUDATE CHRIVI,aSMALL LETTER AZU,cBUKY,cVEDE,cGLAGOLI,cDOBRO,cYESTU,cZHIVETE,cDZELO,cZEMLJA,
     cIZHE,cINITIAL IZHE,cI,cDJERVI,cKAKO,cLJUDIJE,cMYSLITE,cNASHI,cONU,cPOKOJI,cRITSI,cSLOVO,
     cTVRIDO,cUKU,cFRITU,cHERU,cOTU,cPE,cSHTA,cTSI,cCHRIVI,cSHA,cYERU,cYERI,cYATI,cSPIDERY HA,cYU,
     cSMALL YUS,eWITH TAIL,cYO,cIOTATED SMALL YUS,cBIG YUS,cIOTATED BIG YUS,cFITA,cIZHITSA,cSHTAPIC,
     cTROKUTASTI A,cLATINATE MYSLITE,cCAUDATE CHRIVI,LATIN CAPITAL LETTER L WITH DOUBLE BAR,
     aSMALL LETTER L WITH DOUBLE BAR,aCAPITAL LETTER L WITH MIDDLE TILDE,cP WITH STROKE,
     cR WITH TAIL,aSMALL LETTER A WITH STROKE,cT WITH DIAGONAL STROKE,
     aCAPITAL LETTER H WITH DESCENDER,aSMALL LETTER H WITH DESCENDER,
     aCAPITAL LETTER K WITH DESCENDER,aSMALL LETTER K WITH DESCENDER,
     aCAPITAL LETTER Z WITH DESCENDER,aSMALL LETTER Z WITH DESCENDER,aCAPITAL LETTER ALPHA,
     cM WITH HOOK,cTURNED A,dALPHA,aSMALL LETTER V WITH RIGHT HOOK,aCAPITAL LETTER W WITH HOOK,
     aSMALL LETTER W WITH HOOK,cV WITH CURL,aCAPITAL LETTER HALF H,aSMALL LETTER HALF H,
     cTAILLESS PHI,cE WITH NOTCH,cTURNED R WITH TAIL,cO WITH LOW RING INSIDE,
     aLETTER SMALL CAPITAL TURNED E,aSUBSCRIPT SMALL LETTER J,MODIFIER LETTER CAPITAL V,
     LATIN CAPITAL LETTER S WITH SWASH TAIL,cZ WITH SWASH TAIL,COPTIC CAPITAL LETTER ALFA,
     aSMALL LETTER ALFA,aCAPITAL LETTER VIDA,aSMALL LETTER VIDA,aCAPITAL LETTER GAMMA,
     aSMALL LETTER GAMMA,aCAPITAL LETTER DALDA,aSMALL LETTER DALDA,aCAPITAL LETTER EIE,
     aSMALL LETTER EIE,aCAPITAL LETTER SOU,aSMALL LETTER SOU,aCAPITAL LETTER ZATA,
     aSMALL LETTER ZATA,aCAPITAL LETTER HATE,aSMALL LETTER HATE,aCAPITAL LETTER THETHE,
     aSMALL LETTER THETHE,aCAPITAL LETTER IAUDA,aSMALL LETTER IAUDA,aCAPITAL LETTER KAPA,
     aSMALL LETTER KAPA,aCAPITAL LETTER LAULA,aSMALL LETTER LAULA,aCAPITAL LETTER MI,
     aSMALL LETTER MI,aCAPITAL LETTER NI,aSMALL LETTER NI,aCAPITAL LETTER KSI,aSMALL LETTER KSI,
     aCAPITAL LETTER O,aSMALL LETTER O,aCAPITAL LETTER PI,aSMALL LETTER PI,aCAPITAL LETTER RO,
     aSMALL LETTER RO,aCAPITAL LETTER SIMA,aSMALL LETTER SIMA,aCAPITAL LETTER TAU,aSMALL LETTER TAU,
     aCAPITAL LETTER UA,aSMALL LETTER UA,aCAPITAL LETTER FI,aSMALL LETTER FI,aCAPITAL LETTER KHI,
     aSMALL LETTER KHI,aCAPITAL LETTER PSI,aSMALL LETTER PSI,aCAPITAL LETTER OOU,aSMALL LETTER OOU,
     aCAPITAL LETTER DIALECT-P ALEF,aSMALL LETTER DIALECT-P ALEF,aCAPITAL LETTER OLD COPTIC AIN,
     aSMALL LETTER OLD COPTIC AIN,aCAPITAL LETTER CRYPTOGRAMMIC EIE,aSMALL LETTER CRYPTOGRAMMIC EIE,
     aCAPITAL LETTER DIALECT-P KAPA,aSMALL LETTER DIALECT-P KAPA,aCAPITAL LETTER DIALECT-P NI,
     aSMALL LETTER DIALECT-P NI,aCAPITAL LETTER CRYPTOGRAMMIC NI,aSMALL LETTER CRYPTOGRAMMIC NI,
     aCAPITAL LETTER OLD COPTIC OOU,aSMALL LETTER OLD COPTIC OOU,aCAPITAL LETTER SAMPI,
     aSMALL LETTER SAMPI,aCAPITAL LETTER CROSSED SHEI,aSMALL LETTER CROSSED SHEI,
     aCAPITAL LETTER OLD COPTIC SHEI,aSMALL LETTER OLD COPTIC SHEI,aCAPITAL LETTER OLD COPTIC ESH,
     aSMALL LETTER OLD COPTIC ESH,aCAPITAL LETTER AKHMIMIC KHEI,aSMALL LETTER AKHMIMIC KHEI,
     aCAPITAL LETTER DIALECT-P HORI,aSMALL LETTER DIALECT-P HORI,aCAPITAL LETTER OLD COPTIC HORI,
     aSMALL LETTER OLD COPTIC HORI,aCAPITAL LETTER OLD COPTIC HA,aSMALL LETTER OLD COPTIC HA,
     aCAPITAL LETTER L-SHAPED HA,aSMALL LETTER L-SHAPED HA,aCAPITAL LETTER OLD COPTIC HEI,
     aSMALL LETTER OLD COPTIC HEI,aCAPITAL LETTER OLD COPTIC HAT,aSMALL LETTER OLD COPTIC HAT,
     aCAPITAL LETTER OLD COPTIC GANGIA,aSMALL LETTER OLD COPTIC GANGIA,
     aCAPITAL LETTER OLD COPTIC DJA,aSMALL LETTER OLD COPTIC DJA,aCAPITAL LETTER OLD COPTIC SHIMA,
     aSMALL LETTER OLD COPTIC SHIMA,aCAPITAL LETTER OLD NUBIAN SHIMA,aSMALL LETTER OLD NUBIAN SHIMA,
     aCAPITAL LETTER OLD NUBIAN NGI,aSMALL LETTER OLD NUBIAN NGI,aCAPITAL LETTER OLD NUBIAN NYI,
     aSMALL LETTER OLD NUBIAN NYI,aCAPITAL LETTER OLD NUBIAN WAU,aSMALL LETTER OLD NUBIAN WAU,
     aSYMBOL KAI,bMI RO,bPI RO,bSTAUROS,bTAU RO,bKHI RO,bSHIMA SIMA,
     aCAPITAL LETTER CRYPTOGRAMMIC SHEI,aSMALL LETTER CRYPTOGRAMMIC SHEI,
     aCAPITAL LETTER CRYPTOGRAMMIC GANGIA,aSMALL LETTER CRYPTOGRAMMIC GANGIA,aCOMBINING NI ABOVE,
     bSPIRITUS ASPER,cLENIS,aCAPITAL LETTER BOHAIRIC KHEI,aSMALL LETTER BOHAIRIC KHEI,,,,,,
     aOLD NUBIAN FULL STOP,cDIRECT QUESTION MARK,cINDIRECT QUESTION MARK,cVERSE DIVIDER,
     aFRACTION ONE HALF,aFULL STOP,aMORPHOLOGICAL DIVIDER,GEORGIAN SMALL LETTER AN,cBAN,cGAN,cDON,
     cEN,cVIN,cZEN,cTAN,cIN,cKAN,cLAS,cMAN,cNAR,cON,cPAR,cZHAR,cRAE,cSAN,cTAR,cUN,cPHAR,cKHAR,cGHAN,
     cQAR,cSHIN,cCHIN,cCAN,cJIL,cCIL,cCHAR,cXAN,cJHAN,cHAE,cHE,cHIE,cWE,cHAR,cHOE,,cYN,,,,,,cAEN,,,
     TIFINAGH LETTER YA,bYAB,bYABH,bYAG,bYAGHH,bBERBER ACADEMY YAJ,bYAJ,bYAD,bYADH,bYADD,bYADDH,
     bYEY,bYAF,bYAK,bTUAREG YAK,bYAKHH,bYAH,bBERBER ACADEMY YAH,bTUAREG YAH,bYAHH,bYAA,bYAKH,
     bTUAREG YAKH,bYAQ,bTUAREG YAQ,bYI,bYAZH,bAHAGGAR YAZH,bTUAREG YAZH,bYAL,bYAM,bYAN,bTUAREG YAGN,
     cYANG,bYAP,bYU,bYAR,bYARR,bYAGH,bTUAREG YAGH,bAYER YAGH,bYAS,bYASS,bYASH,bYAT,bYATH,bYACH,
     bYATT,bYAV,bYAW,bYAY,bYAZ,bTAWELLEMET YAZ,bYAZZ,bYE,bYO,,,,,,,,
     aMODIFIER LETTER LABIALIZATION MARK,aSEPARATOR MARK"),
   (0x2d7f, "TIFINAGH CONSONANT JOINER,ETHIOPIC SYLLABLE LOA,bMOA,bROA,bSOA,bSHOA,bBOA,bTOA,bCOA,
     bNOA,bNYOA,bGLOTTAL OA,bZOA,bDOA,bDDOA,bJOA,bTHOA,bCHOA,bPHOA,bPOA,bGGWA,bGGWI,bGGWEE,bGGWE"),
   (0x2da0, "ETHIOPIC SYLLABLE SSA,bSSU,bSSI,bSSAA,bSSEE,bSSE,bSSO,,bCCA,bCCU,bCCI,bCCAA,bCCEE,bCCE,
     bCCO,,bZZA,bZZU,bZZI,bZZAA,bZZEE,bZZE,bZZO,,bCCHA,bCCHU,bCCHI,bCCHAA,bCCHEE,bCCHE,bCCHO,,bQYA,
     bQYU,bQYI,bQYAA,bQYEE,bQYE,bQYO,,bKYA,bKYU,bKYI,bKYAA,bKYEE,bKYE,bKYO,,bXYA,bXYU,bXYI,bXYAA,
     bXYEE,bXYE,bXYO,,bGYA,bGYU,bGYI,bGYAA,bGYEE,bGYE,bGYO,,COMBINING CYRILLIC LETTER BE,cVE,cGHE,
     cDE,cZHE,cZE,cKA,cEL,cEM,cEN,cO,cPE,cER,cES,cTE,cHA,cTSE,cCHE,cSHA,cSHCHA,cFITA,cES-TE,cA,cIE,
     cDJERV,cMONOGRAPH UK,cYAT,cYU,cIOTIFIED A,cLITTLE YUS,cBIG YUS,cIOTIFIED BIG YUS,
     RIGHT ANGLE SUBSTITUTION MARKER,bDOTTED SUBSTITUTION MARKER,LEFT SUBSTITUTION BRACKET,
     RIGHT SUBSTITUTION BRACKET,LEFT DOTTED SUBSTITUTION BRACKET,RIGHT DOTTED SUBSTITUTION BRACKET,
     RAISED INTERPOLATION MARKER,aDOTTED INTERPOLATION MARKER,DOTTED TRANSPOSITION MARKER,
     LEFT TRANSPOSITION BRACKET,RIGHT TRANSPOSITION BRACKET,RAISED SQUARE,
     LEFT RAISED OMISSION BRACKET,RIGHT RAISED OMISSION BRACKET,EDITORIAL CORONIS,PARAGRAPHOS,
     FORKED PARAGRAPHOS,REVERSED FORKED PARAGRAPHOS,HYPODIASTOLE,DOTTED OBELOS,DOWNWARDS ANCORA,
     UPWARDS ANCORA,DOTTED RIGHT-POINTING ANGLE,DOUBLE OBLIQUE HYPHEN,INVERTED INTERROBANG,
     PALM BRANCH,HYPHEN WITH DIAERESIS,TILDE WITH RING ABOVE,LEFT LOW PARAPHRASE BRACKET,
     RIGHT LOW PARAPHRASE BRACKET,TILDE WITH DOT ABOVE,cBELOW,LEFT VERTICAL BAR WITH QUILL,
     RIGHT VERTICAL BAR WITH QUILL,TOP LEFT HALF BRACKET,aRIGHT HALF BRACKET,
     BOTTOM LEFT HALF BRACKET,aRIGHT HALF BRACKET,LEFT SIDEWAYS U BRACKET,RIGHT SIDEWAYS U BRACKET,
     LEFT DOUBLE PARENTHESIS,RIGHT DOUBLE PARENTHESIS,TWO DOTS OVER ONE DOT PUNCTUATION,
     ONE DOT OVER TWO DOTS PUNCTUATION,SQUARED FOUR DOT PUNCTUATION,FIVE DOT MARK,
     REVERSED QUESTION MARK,VERTICAL TILDE,RING POINT,WORD SEPARATOR MIDDLE DOT,TURNED COMMA,
     RAISED DOT,aCOMMA,TURNED SEMICOLON,DAGGER WITH LEFT GUARD,bRIGHT GUARD,TURNED DAGGER,
     TOP HALF SECTION SIGN,TWO-EM DASH,THREE-EM DASH,STENOGRAPHIC FULL STOP,VERTICAL SIX DOTS,
     WIGGLY VERTICAL LINE,CAPITULUM,DOUBLE HYPHEN,REVERSED COMMA,
     DOUBLE LOW-REVERSED-9 QUOTATION MARK,DASH WITH LEFT UPTURN,DOUBLE SUSPENSION MARK,
     INVERTED LOW KAVYKA,cWITH KAVYKA ABOVE,LOW KAVYKA,bWITH DOT,DOUBLE STACKED COMMA,
     DOTTED SOLIDUS,TRIPLE DAGGER,MEDIEVAL COMMA,PARAGRAPHUS MARK,PUNCTUS ELEVATUS MARK,
     CORNISH VERSE DIVIDER,CROSS PATTY WITH RIGHT CROSSBAR,cLEFT CROSSBAR,TIRONIAN SIGN CAPITAL ET,
     MEDIEVAL EXCLAMATION MARK,aQUESTION MARK,LEFT SQUARE BRACKET WITH STROKE,
     RIGHT SQUARE BRACKET WITH STROKE,LEFT SQUARE BRACKET WITH DOUBLE STROKE,
     RIGHT SQUARE BRACKET WITH DOUBLE STROKE,TOP HALF LEFT PARENTHESIS,bRIGHT PARENTHESIS,
     BOTTOM HALF LEFT PARENTHESIS,bRIGHT PARENTHESIS,OBLIQUE HYPHEN"),
   (0x2e80, "CJK RADICAL REPEAT,bCLIFF,bSECOND ONE,cTWO,cTHREE,bPERSON,bBOX,bTABLE,bKNIFE ONE,cTWO,
     bDIVINATION,bSEAL,bSMALL ONE,cTWO,bLAME ONE,cTWO,cTHREE,cFOUR,bSNAKE,bTHREAD,bSNOUT ONE,cTWO,
     bHEART ONE,cTWO,bHAND,bRAP,,bCHOKE,bSUN,bMOON,bDEATH,bMOTHER,bCIVILIAN,bWATER ONE,cTWO,bFIRE,
     bPAW ONE,cTWO,bSIMPLIFIED HALF TREE TRUNK,bCOW,bDOG,bJADE,bBOLT OF CLOTH,bEYE,bSPIRIT ONE,cTWO,
     bBAMBOO,bSILK,bC-SIMPLIFIED SILK,bNET ONE,cTWO,cTHREE,cFOUR,bMESH,bSHEEP,bRAM,bEWE,bOLD,
     bBRUSH ONE,cTWO,bMEAT,bMORTAR,bGRASS ONE,cTWO,cTHREE,bTIGER,bCLOTHES,bWEST ONE,cTWO,
     bC-SIMPLIFIED SEE,bSIMPLIFIED HORN,bHORN,bC-SIMPLIFIED SPEECH,cSHELL,bFOOT,bC-SIMPLIFIED CART,
     bSIMPLIFIED WALK,bWALK ONE,cTWO,bCITY,bC-SIMPLIFIED GOLD,bLONG ONE,cTWO,bC-SIMPLIFIED LONG,
     cGATE,bMOUND ONE,cTWO,bRAIN,bBLUE,bC-SIMPLIFIED TANNED LEATHER,cLEAF,cWIND,cFLY,bEAT ONE,cTWO,
     cTHREE,bC-SIMPLIFIED EAT,bHEAD,bC-SIMPLIFIED HORSE,bBONE,bGHOST,bC-SIMPLIFIED FISH,cBIRD,cSALT,
     bSIMPLIFIED WHEAT,cYELLOW,bC-SIMPLIFIED FROG,bJ-SIMPLIFIED EVEN,bC-SIMPLIFIED EVEN,
     bJ-SIMPLIFIED TOOTH,bC-SIMPLIFIED TOOTH,bJ-SIMPLIFIED DRAGON,bC-SIMPLIFIED DRAGON,bTURTLE,
     bJ-SIMPLIFIED TURTLE,bC-SIMPLIFIED TURTLE"),
   (0x2f00, "KANGXI RADICAL ONE,bLINE,bDOT,bSLASH,bSECOND,bHOOK,bTWO,bLID,bMAN,bLEGS,bENTER,bEIGHT,
     bDOWN BOX,bCOVER,bICE,bTABLE,bOPEN BOX,bKNIFE,bPOWER,bWRAP,bSPOON,bRIGHT OPEN BOX,
     bHIDING ENCLOSURE,bTEN,bDIVINATION,bSEAL,bCLIFF,bPRIVATE,bAGAIN,bMOUTH,bENCLOSURE,bEARTH,
     bSCHOLAR,bGO,cSLOWLY,bEVENING,bBIG,bWOMAN,bCHILD,bROOF,bINCH,bSMALL,bLAME,bCORPSE,bSPROUT,
     bMOUNTAIN,bRIVER,bWORK,bONESELF,bTURBAN,bDRY,bSHORT THREAD,bDOTTED CLIFF,bLONG STRIDE,
     bTWO HANDS,bSHOOT,bBOW,bSNOUT,bBRISTLE,bSTEP,bHEART,bHALBERD,bDOOR,bHAND,bBRANCH,bRAP,bSCRIPT,
     bDIPPER,bAXE,bSQUARE,bNOT,bSUN,bSAY,bMOON,bTREE,bLACK,bSTOP,bDEATH,bWEAPON,bDO NOT,bCOMPARE,
     bFUR,bCLAN,bSTEAM,bWATER,bFIRE,bCLAW,bFATHER,bDOUBLE X,bHALF TREE TRUNK,bSLICE,bFANG,bCOW,bDOG,
     bPROFOUND,bJADE,bMELON,bTILE,bSWEET,bLIFE,bUSE,bFIELD,bBOLT OF CLOTH,bSICKNESS,bDOTTED TENT,
     bWHITE,bSKIN,bDISH,bEYE,bSPEAR,bARROW,bSTONE,bSPIRIT,bTRACK,bGRAIN,bCAVE,bSTAND,bBAMBOO,bRICE,
     bSILK,bJAR,bNET,bSHEEP,bFEATHER,bOLD,bAND,bPLOW,bEAR,bBRUSH,bMEAT,bMINISTER,bSELF,bARRIVE,
     bMORTAR,bTONGUE,bOPPOSE,bBOAT,bSTOPPING,bCOLOR,bGRASS,bTIGER,bINSECT,bBLOOD,bWALK ENCLOSURE,
     bCLOTHES,bWEST,bSEE,bHORN,bSPEECH,bVALLEY,bBEAN,bPIG,bBADGER,bSHELL,bRED,bRUN,bFOOT,bBODY,
     bCART,bBITTER,bMORNING,bWALK,bCITY,bWINE,bDISTINGUISH,bVILLAGE,bGOLD,bLONG,bGATE,bMOUND,bSLAVE,
     bSHORT TAILED BIRD,bRAIN,bBLUE,bWRONG,bFACE,bLEATHER,bTANNED LEATHER,bLEEK,bSOUND,bLEAF,bWIND,
     bFLY,bEAT,bHEAD,bFRAGRANT,bHORSE,bBONE,bTALL,bHAIR,bFIGHT,bSACRIFICIAL WINE,bCAULDRON,bGHOST,
     bFISH,bBIRD,bSALT,bDEER,bWHEAT,bHEMP,bYELLOW,bMILLET,bBLACK,bEMBROIDERY,bFROG,bTRIPOD,bDRUM,
     bRAT,bNOSE,bEVEN,bTOOTH,bDRAGON,bTURTLE,bFLUTE"),
   (0x2ff0, "IDEOGRAPHIC DESCRIPTION CHARACTER LEFT TO RIGHT,cABOVE TO BELOW,
     cLEFT TO MIDDLE AND RIGHT,cABOVE TO MIDDLE AND BELOW,cFULL SURROUND,cSURROUND FROM ABOVE,
     eBELOW,eLEFT,eUPPER LEFT,fRIGHT,eLOWER LEFT,cOVERLAID,,,,,aSPACE,aCOMMA,aFULL STOP,DITTO MARK,
     JAPANESE INDUSTRIAL STANDARD SYMBOL,IDEOGRAPHIC ITERATION MARK,aCLOSING MARK,aNUMBER ZERO,
     LEFT ANGLE BRACKET,RIGHT ANGLE BRACKET,LEFT DOUBLE ANGLE BRACKET,RIGHT DOUBLE ANGLE BRACKET,
     LEFT CORNER BRACKET,RIGHT CORNER BRACKET,LEFT WHITE CORNER BRACKET,RIGHT WHITE CORNER BRACKET,
     LEFT BLACK LENTICULAR BRACKET,RIGHT BLACK LENTICULAR BRACKET,POSTAL MARK,GETA MARK,
     LEFT TORTOISE SHELL BRACKET,RIGHT TORTOISE SHELL BRACKET,LEFT WHITE LENTICULAR BRACKET,
     RIGHT WHITE LENTICULAR BRACKET,LEFT WHITE TORTOISE SHELL BRACKET,
     RIGHT WHITE TORTOISE SHELL BRACKET,LEFT WHITE SQUARE BRACKET,RIGHT WHITE SQUARE BRACKET,
     WAVE DASH,REVERSED DOUBLE PRIME QUOTATION MARK,DOUBLE PRIME QUOTATION MARK,
     LOW DOUBLE PRIME QUOTATION MARK,POSTAL MARK FACE,HANGZHOU NUMERAL ONE,bTWO,bTHREE,bFOUR,bFIVE,
     bSIX,bSEVEN,bEIGHT,bNINE,IDEOGRAPHIC LEVEL TONE MARK,aRISING TONE MARK,aDEPARTING TONE MARK,
     aENTERING TONE MARK,HANGUL SINGLE DOT TONE MARK,aDOUBLE DOT TONE MARK,WAVY DASH,
     VERTICAL KANA REPEAT MARK,cWITH VOICED SOUND MARK,cMARK UPPER HALF,
     cWITH VOICED SOUND MARK UPPER HALF,cMARK LOWER HALF,CIRCLED POSTAL MARK,
     IDEOGRAPHIC TELEGRAPH LINE FEED SEPARATOR SYMBOL,HANGZHOU NUMERAL TEN,bTWENTY,bTHIRTY,
     VERTICAL IDEOGRAPHIC ITERATION MARK,MASU MARK,PART ALTERNATION MARK,
     IDEOGRAPHIC VARIATION INDICATOR,aHALF FILL SPACE,,HIRAGANA LETTER SMALL A,bA,bSMALL I,bI,
     bSMALL U,bU,bSMALL E,bE,bSMALL O,bO,bKA,bGA,bKI,bGI,bKU,bGU,bKE,bGE,bKO,bGO,bSA,bZA,bSI,bZI,
     bSU,bZU,bSE,bZE,bSO,bZO,bTA,bDA,bTI,bDI,bSMALL TU,bTU,bDU,bTE,bDE,bTO,bDO,bNA,bNI,bNU,bNE,bNO,
     bHA,bBA,bPA,bHI,bBI,bPI,bHU,bBU,bPU,bHE,bBE,bPE,bHO,bBO,bPO,bMA,bMI,bMU,bME,bMO,bSMALL YA,bYA,
     bSMALL YU,bYU,bSMALL YO,bYO,bRA,bRI,bRU,bRE,bRO,bSMALL WA,bWA,bWI,bWE,bWO,bN,bVU,bSMALL KA,cKE,
     ,,COMBINING KATAKANA-HIRAGANA VOICED SOUND MARK,bSEMI-VOICED SOUND MARK,
     KATAKANA-HIRAGANA VOICED SOUND MARK,aSEMI-VOICED SOUND MARK,HIRAGANA ITERATION MARK,
     aVOICED ITERATION MARK,aDIGRAPH YORI,KATAKANA-HIRAGANA DOUBLE HYPHEN,KATAKANA LETTER SMALL A,
     bA,bSMALL I,bI,bSMALL U,bU,bSMALL E,bE,bSMALL O,bO,bKA,bGA,bKI,bGI,bKU,bGU,bKE,bGE,bKO,bGO,bSA,
     bZA,bSI,bZI,bSU,bZU,bSE,bZE,bSO,bZO,bTA,bDA,bTI,bDI,bSMALL TU,bTU,bDU,bTE,bDE,bTO,bDO,bNA,bNI,
     bNU,bNE,bNO,bHA,bBA,bPA,bHI,bBI,bPI,bHU,bBU,bPU,bHE,bBE,bPE,bHO,bBO,bPO,bMA,bMI,bMU,bME,bMO,
     bSMALL YA,bYA,bSMALL YU,bYU,bSMALL YO,bYO,bRA,bRI,bRU,bRE,bRO,bSMALL WA,bWA,bWI,bWE,bWO,bN,bVU,
     bSMALL KA,cKE,bVA,bVI,bVE,bVO,aMIDDLE DOT,KATAKANA-HIRAGANA PROLONGED SOUND MARK,
     KATAKANA ITERATION MARK,aVOICED ITERATION MARK,aDIGRAPH KOTO,,,,,,BOPOMOFO LETTER B,bP,bM,bF,
     bD,bT,bN,bL,bG,bK,bH,bJ,bQ,bX,bZH,bCH,bSH,bR,bZ,bC,bS,bA,bO,bE,bEH,bAI,bEI,bAU,bOU,bAN,bEN,
     bANG,bENG,bER,bI,bU,bIU,bV,bNG,bGN,bIH,bO WITH DOT ABOVE,bNN,,HANGUL LETTER KIYEOK,
     bSSANGKIYEOK,bKIYEOK-SIOS,bNIEUN,bNIEUN-CIEUC,bNIEUN-HIEUH,bTIKEUT,bSSANGTIKEUT,bRIEUL,
     bRIEUL-KIYEOK,bRIEUL-MIEUM,bRIEUL-PIEUP,bRIEUL-SIOS,bRIEUL-THIEUTH,bRIEUL-PHIEUPH,bRIEUL-HIEUH,
     bMIEUM,bPIEUP,bSSANGPIEUP,bPIEUP-SIOS,bSIOS,bSSANGSIOS,bIEUNG,bCIEUC,bSSANGCIEUC,bCHIEUCH,
     bKHIEUKH,bTHIEUTH,bPHIEUPH,bHIEUH,bA,bAE,bYA,bYAE,bEO,bE,bYEO,bYE,bO,bWA,bWAE,bOE,bYO,bU,bWEO,
     bWE,bWI,bYU,bEU,bYI,bI,aFILLER,aLETTER SSANGNIEUN,bNIEUN-TIKEUT,bNIEUN-SIOS,bNIEUN-PANSIOS,
     bRIEUL-KIYEOK-SIOS,bRIEUL-TIKEUT,bRIEUL-PIEUP-SIOS,bRIEUL-PANSIOS,bRIEUL-YEORINHIEUH,
     bMIEUM-PIEUP,bMIEUM-SIOS,bMIEUM-PANSIOS,bKAPYEOUNMIEUM,bPIEUP-KIYEOK,bPIEUP-TIKEUT,
     bPIEUP-SIOS-KIYEOK,bPIEUP-SIOS-TIKEUT,bPIEUP-CIEUC,bPIEUP-THIEUTH,bKAPYEOUNPIEUP,
     bKAPYEOUNSSANGPIEUP,bSIOS-KIYEOK,bSIOS-NIEUN,bSIOS-TIKEUT,bSIOS-PIEUP,bSIOS-CIEUC,bPANSIOS,
     bSSANGIEUNG,bYESIEUNG,bYESIEUNG-SIOS,bYESIEUNG-PANSIOS,bKAPYEOUNPHIEUPH,bSSANGHIEUH,
     bYEORINHIEUH,bYO-YA,bYO-YAE,bYO-I,bYU-YEO,bYU-YE,bYU-I,bARAEA,bARAEAE,,
     IDEOGRAPHIC ANNOTATION LINKING MARK,bREVERSE MARK,bONE MARK,bTWO MARK,bTHREE MARK,bFOUR MARK,
     bTOP MARK,bMIDDLE MARK,bBOTTOM MARK,bFIRST MARK,bSECOND MARK,bTHIRD MARK,bFOURTH MARK,
     bHEAVEN MARK,bEARTH MARK,bMAN MARK,BOPOMOFO LETTER BU,bZI,bJI,bGU,bEE,bENN,bOO,bONN,bIR,bANN,
     bINN,bUNN,bIM,bNGG,bAINN,bAUNN,bAM,bOM,bONG,bINNN,aFINAL LETTER P,cT,cK,cH,aLETTER GH,bLH,bZY,
     aFINAL LETTER G,aLETTER GW,bKW,bOE,bAH,CJK STROKE T,bWG,bXG,bBXG,bSW,bHZZ,bHZG,bHP,bHZWG,bSZWG,
     bHZT,bHZZP,bHPWG,bHZW,bHZZZ,bN,bH,bS,bP,bSP,bD,bHZ,bHG,bSZ,bSWZ,bST,bSG,bPD,bPZ,bTN,bSZZ,bSWG,
     bHXWG,bHZZZG,bPG,bQ"),
   (0x31f0, "KATAKANA LETTER SMALL KU,cSI,cSU,cTO,cNU,cHA,cHI,cHU,cHE,cHO,cMU,cRA,cRI,cRU,cRE,cRO,
     PARENTHESIZED HANGUL KIYEOK,bNIEUN,bTIKEUT,bRIEUL,bMIEUM,bPIEUP,bSIOS,bIEUNG,bCIEUC,bCHIEUCH,
     bKHIEUKH,bTHIEUTH,bPHIEUPH,bHIEUH,bKIYEOK A,bNIEUN A,bTIKEUT A,bRIEUL A,bMIEUM A,bPIEUP A,
     bSIOS A,bIEUNG A,bCIEUC A,bCHIEUCH A,bKHIEUKH A,bTHIEUTH A,bPHIEUPH A,bHIEUH A,bCIEUC U,
     aKOREAN CHARACTER OJEON,cO HU,,aIDEOGRAPH ONE,bTWO,bTHREE,bFOUR,bFIVE,bSIX,bSEVEN,bEIGHT,bNINE,
     bTEN,bMOON,bFIRE,bWATER,bWOOD,bMETAL,bEARTH,bSUN,bSTOCK,bHAVE,bSOCIETY,bNAME,bSPECIAL,
     bFINANCIAL,bCONGRATULATION,bLABOR,bREPRESENT,bCALL,bSTUDY,bSUPERVISE,bENTERPRISE,bRESOURCE,
     bALLIANCE,bFESTIVAL,bREST,bSELF,bREACH,CIRCLED IDEOGRAPH QUESTION,bKINDERGARTEN,bSCHOOL,bKOTO,
     aNUMBER TEN ON BLACK SQUARE,bTWENTY ON BLACK SQUARE,bTHIRTY ON BLACK SQUARE,
     bFORTY ON BLACK SQUARE,bFIFTY ON BLACK SQUARE,bSIXTY ON BLACK SQUARE,bSEVENTY ON BLACK SQUARE,
     bEIGHTY ON BLACK SQUARE,PARTNERSHIP SIGN,CIRCLED NUMBER TWENTY ONE,cTWO,cTHREE,cFOUR,cFIVE,
     cSIX,cSEVEN,cEIGHT,cNINE,bTHIRTY,cONE,cTWO,cTHREE,cFOUR,cFIVE,aHANGUL KIYEOK,bNIEUN,bTIKEUT,
     bRIEUL,bMIEUM,bPIEUP,bSIOS,bIEUNG,bCIEUC,bCHIEUCH,bKHIEUKH,bTHIEUTH,bPHIEUPH,bHIEUH,bKIYEOK A,
     bNIEUN A,bTIKEUT A,bRIEUL A,bMIEUM A,bPIEUP A,bSIOS A,bIEUNG A,bCIEUC A,bCHIEUCH A,bKHIEUKH A,
     bTHIEUTH A,bPHIEUPH A,bHIEUH A,aKOREAN CHARACTER CHAMKO,cJUEUI,aHANGUL IEUNG U,
     KOREAN STANDARD SYMBOL,CIRCLED IDEOGRAPH ONE,bTWO,bTHREE,bFOUR,bFIVE,bSIX,bSEVEN,bEIGHT,bNINE,
     bTEN,bMOON,bFIRE,bWATER,bWOOD,bMETAL,bEARTH,bSUN,bSTOCK,bHAVE,bSOCIETY,bNAME,bSPECIAL,
     bFINANCIAL,bCONGRATULATION,bLABOR,bSECRET,bMALE,bFEMALE,bSUITABLE,bEXCELLENT,bPRINT,bATTENTION,
     bITEM,bREST,bCOPY,bCORRECT,bHIGH,bCENTRE,bLOW,bLEFT,bRIGHT,bMEDICINE,bRELIGION,bSTUDY,
     bSUPERVISE,bENTERPRISE,bRESOURCE,bALLIANCE,bNIGHT,aNUMBER THIRTY SIX,cSEVEN,cEIGHT,cNINE,
     bFORTY,cONE,cTWO,cTHREE,cFOUR,cFIVE,cSIX,cSEVEN,cEIGHT,cNINE,bFIFTY,
     IDEOGRAPHIC TELEGRAPH SYMBOL FOR JANUARY,dFEBRUARY,dMARCH,dAPRIL,dMAY,dJUNE,dJULY,dAUGUST,
     dSEPTEMBER,dOCTOBER,dNOVEMBER,dDECEMBER,SQUARE HG,aERG,aEV,LIMITED LIABILITY SIGN,
     CIRCLED KATAKANA A,bI,bU,bE,bO,bKA,bKI,bKU,bKE,bKO,bSA,bSI,bSU,bSE,bSO,bTA,bTI,bTU,bTE,bTO,bNA,
     bNI,bNU,bNE,bNO,bHA,bHI,bHU,bHE,bHO,bMA,bMI,bMU,bME,bMO,bYA,bYU,bYO,bRA,bRI,bRU,bRE,bRO,bWA,
     bWI,bWE,bWO,SQUARE ERA NAME REIWA,aAPAATO,aARUHUA,aANPEA,aAARU,aININGU,aINTI,aUON,aESUKUUDO,
     aEEKAA,aONSU,aOOMU,aKAIRI,aKARATTO,aKARORII,aGARON,aGANMA,aGIGA,aGINII,aKYURII,aGIRUDAA,aKIRO,
     aKIROGURAMU,aKIROMEETORU,aKIROWATTO,aGURAMU,aGURAMUTON,aKURUZEIRO,aKUROONE,aKEESU,aKORUNA,
     aKOOPO,aSAIKURU,aSANTIIMU,aSIRINGU,aSENTI,aSENTO,aDAASU,aDESI,aDORU,aTON,aNANO,aNOTTO,aHAITU,
     aPAASENTO,aPAATU,aBAARERU,aPIASUTORU,aPIKURU,aPIKO,aBIRU,aHUARADDO,aHUIITO,aBUSSYERU,aHURAN,
     aHEKUTAARU,aPESO,aPENIHI,aHERUTU,aPENSU,aPEEZI,aBEETA,aPOINTO,aBORUTO,aHON,aPONDO,aHOORU,aHOON,
     aMAIKURO,aMAIRU,aMAHHA,aMARUKU,aMANSYON,aMIKURON,aMIRI,aMIRIBAARU,aMEGA,aMEGATON,aMEETORU,
     aYAADO,aYAARU,aYUAN,aRITTORU,aRIRA,aRUPII,aRUUBURU,aREMU,aRENTOGEN,aWATTO,
     IDEOGRAPHIC TELEGRAPH SYMBOL FOR HOUR ZERO,eONE,eTWO,eTHREE,eFOUR,eFIVE,eSIX,eSEVEN,eEIGHT,
     eNINE,eTEN,eELEVEN,eTWELVE,eTHIRTEEN,eFOURTEEN,eFIFTEEN,eSIXTEEN,eSEVENTEEN,eEIGHTEEN,
     eNINETEEN,eTWENTY,eTWENTY-ONE,eTWENTY-TWO,eTWENTY-THREE,eTWENTY-FOUR,SQUARE HPA,aDA,aAU,aBAR,
     aOV,aPC,aDM,bSQUARED,bCUBED,aIU,aERA NAME HEISEI,cSYOUWA,cTAISYOU,cMEIZI,aCORPORATION,aPA AMPS,
     aNA,aMU A,aMA,aKA,aKB,aMB,aGB,aCAL,aKCAL,aPF,aNF,aMU F,bG,aMG,aKG,aHZ,aKHZ,aMHZ,aGHZ,aTHZ,
     aMU L,aML,aDL,aKL,aFM,aNM,aMU M,aMM,aCM,aKM,aMM SQUARED,aCM SQUARED,aM SQUARED,aKM SQUARED,
     aMM CUBED,aCM CUBED,aM CUBED,aKM CUBED,aM OVER S,dSQUARED,aPA,aKPA,aMPA,aGPA,aRAD,bOVER S,
     dSQUARED,aPS,aNS,aMU S,aMS,aPV,aNV,aMU V,aMV,aKV,aMV MEGA,aPW,aNW,aMU W,aMW,aKW,aMW MEGA,
     aK OHM,aM OHM,aAM,aBQ,aCC,aCD,aC OVER KG,aCO,aDB,aGY,aHA,aHP,aIN,aKK,aKM CAPITAL,aKT,aLM,aLN,
     aLOG,aLX,aMB SMALL,aMIL,aMOL,aPH,aPM,aPPM,aPR,aSR,aSV,aWB,aV OVER M,aA OVER M,
     IDEOGRAPHIC TELEGRAPH SYMBOL FOR DAY ONE,eTWO,eTHREE,eFOUR,eFIVE,eSIX,eSEVEN,eEIGHT,eNINE,eTEN,
     eELEVEN,eTWELVE,eTHIRTEEN,eFOURTEEN,eFIFTEEN,eSIXTEEN,eSEVENTEEN,eEIGHTEEN,eNINETEEN,eTWENTY,
     eTWENTY-ONE,eTWENTY-TWO,eTWENTY-THREE,eTWENTY-FOUR,eTWENTY-FIVE,eTWENTY-SIX,eTWENTY-SEVEN,
     eTWENTY-EIGHT,eTWENTY-NINE,eTHIRTY,eTHIRTY-ONE,SQUARE GAL"),
   (0x4dc0, "HEXAGRAM FOR THE CREATIVE HEAVEN,cRECEPTIVE EARTH,bDIFFICULTY AT THE BEGINNING,
     bYOUTHFUL FOLLY,bWAITING,bCONFLICT,bTHE ARMY,bHOLDING TOGETHER,bSMALL TAMING,bTREADING,bPEACE,
     bSTANDSTILL,bFELLOWSHIP,bGREAT POSSESSION,bMODESTY,bENTHUSIASM,bFOLLOWING,bWORK ON THE DECAYED,
     bAPPROACH,bCONTEMPLATION,bBITING THROUGH,bGRACE,bSPLITTING APART,bRETURN,bINNOCENCE,
     bGREAT TAMING,bMOUTH CORNERS,bGREAT PREPONDERANCE,bTHE ABYSMAL WATER,cCLINGING FIRE,bINFLUENCE,
     bDURATION,bRETREAT,bGREAT POWER,bPROGRESS,bDARKENING OF THE LIGHT,bTHE FAMILY,bOPPOSITION,
     bOBSTRUCTION,bDELIVERANCE,bDECREASE,bINCREASE,bBREAKTHROUGH,bCOMING TO MEET,
     bGATHERING TOGETHER,bPUSHING UPWARD,bOPPRESSION,bTHE WELL,bREVOLUTION,bTHE CAULDRON,
     cAROUSING THUNDER,cKEEPING STILL MOUNTAIN,bDEVELOPMENT,bTHE MARRYING MAIDEN,bABUNDANCE,
     bTHE WANDERER,cGENTLE WIND,cJOYOUS LAKE,bDISPERSION,bLIMITATION,bINNER TRUTH,
     bSMALL PREPONDERANCE,bAFTER COMPLETION,bBEFORE COMPLETION"),
   (0xa000, "YI SYLLABLE IT,bIX,bI,bIP,bIET,bIEX,bIE,bIEP,bAT,bAX,bA,bAP,bUOX,bUO,bUOP,bOT,bOX,bO,
     bOP,bEX,bE,bWU,bBIT,bBIX,bBI,bBIP,bBIET,bBIEX,bBIE,bBIEP,bBAT,bBAX,bBA,bBAP,bBUOX,bBUO,bBUOP,
     bBOT,bBOX,bBO,bBOP,bBEX,bBE,bBEP,bBUT,bBUX,bBU,bBUP,bBURX,bBUR,bBYT,bBYX,bBY,bBYP,bBYRX,bBYR,
     bPIT,bPIX,bPI,bPIP,bPIEX,bPIE,bPIEP,bPAT,bPAX,bPA,bPAP,bPUOX,bPUO,bPUOP,bPOT,bPOX,bPO,bPOP,
     bPUT,bPUX,bPU,bPUP,bPURX,bPUR,bPYT,bPYX,bPY,bPYP,bPYRX,bPYR,bBBIT,bBBIX,bBBI,bBBIP,bBBIET,
     bBBIEX,bBBIE,bBBIEP,bBBAT,bBBAX,bBBA,bBBAP,bBBUOX,bBBUO,bBBUOP,bBBOT,bBBOX,bBBO,bBBOP,bBBEX,
     bBBE,bBBEP,bBBUT,bBBUX,bBBU,bBBUP,bBBURX,bBBUR,bBBYT,bBBYX,bBBY,bBBYP,bNBIT,bNBIX,bNBI,bNBIP,
     bNBIEX,bNBIE,bNBIEP,bNBAT,bNBAX,bNBA,bNBAP,bNBOT,bNBOX,bNBO,bNBOP,bNBUT,bNBUX,bNBU,bNBUP,
     bNBURX,bNBUR,bNBYT,bNBYX,bNBY,bNBYP,bNBYRX,bNBYR,bHMIT,bHMIX,bHMI,bHMIP,bHMIEX,bHMIE,bHMIEP,
     bHMAT,bHMAX,bHMA,bHMAP,bHMUOX,bHMUO,bHMUOP,bHMOT,bHMOX,bHMO,bHMOP,bHMUT,bHMUX,bHMU,bHMUP,
     bHMURX,bHMUR,bHMYX,bHMY,bHMYP,bHMYRX,bHMYR,bMIT,bMIX,bMI,bMIP,bMIEX,bMIE,bMIEP,bMAT,bMAX,bMA,
     bMAP,bMUOT,bMUOX,bMUO,bMUOP,bMOT,bMOX,bMO,bMOP,bMEX,bME,bMUT,bMUX,bMU,bMUP,bMURX,bMUR,bMYT,
     bMYX,bMY,bMYP,bFIT,bFIX,bFI,bFIP,bFAT,bFAX,bFA,bFAP,bFOX,bFO,bFOP,bFUT,bFUX,bFU,bFUP,bFURX,
     bFUR,bFYT,bFYX,bFY,bFYP,bVIT,bVIX,bVI,bVIP,bVIET,bVIEX,bVIE,bVIEP,bVAT,bVAX,bVA,bVAP,bVOT,bVOX,
     bVO,bVOP,bVEX,bVEP,bVUT,bVUX,bVU,bVUP,bVURX,bVUR,bVYT,bVYX,bVY,bVYP,bVYRX,bVYR,bDIT,bDIX,bDI,
     bDIP,bDIEX,bDIE,bDIEP,bDAT,bDAX,bDA,bDAP,bDUOX,bDUO,bDOT,bDOX,bDO,bDOP,bDEX,bDE,bDEP,bDUT,bDUX,
     bDU,bDUP,bDURX,bDUR,bTIT,bTIX,bTI,bTIP,bTIEX,bTIE,bTIEP,bTAT,bTAX,bTA,bTAP,bTUOT,bTUOX,bTUO,
     bTUOP,bTOT,bTOX,bTO,bTOP,bTEX,bTE,bTEP,bTUT,bTUX,bTU,bTUP,bTURX,bTUR,bDDIT,bDDIX,bDDI,bDDIP,
     bDDIEX,bDDIE,bDDIEP,bDDAT,bDDAX,bDDA,bDDAP,bDDUOX,bDDUO,bDDUOP,bDDOT,bDDOX,bDDO,bDDOP,bDDEX,
     bDDE,bDDEP,bDDUT,bDDUX,bDDU,bDDUP,bDDURX,bDDUR,bNDIT,bNDIX,bNDI,bNDIP,bNDIEX,bNDIE,bNDAT,bNDAX,
     bNDA,bNDAP,bNDOT,bNDOX,bNDO,bNDOP,bNDEX,bNDE,bNDEP,bNDUT,bNDUX,bNDU,bNDUP,bNDURX,bNDUR,bHNIT,
     bHNIX,bHNI,bHNIP,bHNIET,bHNIEX,bHNIE,bHNIEP,bHNAT,bHNAX,bHNA,bHNAP,bHNUOX,bHNUO,bHNOT,bHNOX,
     bHNOP,bHNEX,bHNE,bHNEP,bHNUT,bNIT,bNIX,bNI,bNIP,bNIEX,bNIE,bNIEP,bNAX,bNA,bNAP,bNUOX,bNUO,
     bNUOP,bNOT,bNOX,bNO,bNOP,bNEX,bNE,bNEP,bNUT,bNUX,bNU,bNUP,bNURX,bNUR,bHLIT,bHLIX,bHLI,bHLIP,
     bHLIEX,bHLIE,bHLIEP,bHLAT,bHLAX,bHLA,bHLAP,bHLUOX,bHLUO,bHLUOP,bHLOX,bHLO,bHLOP,bHLEX,bHLE,
     bHLEP,bHLUT,bHLUX,bHLU,bHLUP,bHLURX,bHLUR,bHLYT,bHLYX,bHLY,bHLYP,bHLYRX,bHLYR,bLIT,bLIX,bLI,
     bLIP,bLIET,bLIEX,bLIE,bLIEP,bLAT,bLAX,bLA,bLAP,bLUOT,bLUOX,bLUO,bLUOP,bLOT,bLOX,bLO,bLOP,bLEX,
     bLE,bLEP,bLUT,bLUX,bLU,bLUP,bLURX,bLUR,bLYT,bLYX,bLY,bLYP,bLYRX,bLYR,bGIT,bGIX,bGI,bGIP,bGIET,
     bGIEX,bGIE,bGIEP,bGAT,bGAX,bGA,bGAP,bGUOT,bGUOX,bGUO,bGUOP,bGOT,bGOX,bGO,bGOP,bGET,bGEX,bGE,
     bGEP,bGUT,bGUX,bGU,bGUP,bGURX,bGUR,bKIT,bKIX,bKI,bKIP,bKIEX,bKIE,bKIEP,bKAT,bKAX,bKA,bKAP,
     bKUOX,bKUO,bKUOP,bKOT,bKOX,bKO,bKOP,bKET,bKEX,bKE,bKEP,bKUT,bKUX,bKU,bKUP,bKURX,bKUR,bGGIT,
     bGGIX,bGGI,bGGIEX,bGGIE,bGGIEP,bGGAT,bGGAX,bGGA,bGGAP,bGGUOT,bGGUOX,bGGUO,bGGUOP,bGGOT,bGGOX,
     bGGO,bGGOP,bGGET,bGGEX,bGGE,bGGEP,bGGUT,bGGUX,bGGU,bGGUP,bGGURX,bGGUR,bMGIEX,bMGIE,bMGAT,bMGAX,
     bMGA,bMGAP,bMGUOX,bMGUO,bMGUOP,bMGOT,bMGOX,bMGO,bMGOP,bMGEX,bMGE,bMGEP,bMGUT,bMGUX,bMGU,bMGUP,
     bMGURX,bMGUR,bHXIT,bHXIX,bHXI,bHXIP,bHXIET,bHXIEX,bHXIE,bHXIEP,bHXAT,bHXAX,bHXA,bHXAP,bHXUOT,
     bHXUOX,bHXUO,bHXUOP,bHXOT,bHXOX,bHXO,bHXOP,bHXEX,bHXE,bHXEP,bNGIEX,bNGIE,bNGIEP,bNGAT,bNGAX,
     bNGA,bNGAP,bNGUOT,bNGUOX,bNGUO,bNGOT,bNGOX,bNGO,bNGOP,bNGEX,bNGE,bNGEP,bHIT,bHIEX,bHIE,bHAT,
     bHAX,bHA,bHAP,bHUOT,bHUOX,bHUO,bHUOP,bHOT,bHOX,bHO,bHOP,bHEX,bHE,bHEP,bWAT,bWAX,bWA,bWAP,bWUOX,
     bWUO,bWUOP,bWOX,bWO,bWOP,bWEX,bWE,bWEP,bZIT,bZIX,bZI,bZIP,bZIEX,bZIE,bZIEP,bZAT,bZAX,bZA,bZAP,
     bZUOX,bZUO,bZUOP,bZOT,bZOX,bZO,bZOP,bZEX,bZE,bZEP,bZUT,bZUX,bZU,bZUP,bZURX,bZUR,bZYT,bZYX,bZY,
     bZYP,bZYRX,bZYR,bCIT,bCIX,bCI,bCIP,bCIET,bCIEX,bCIE,bCIEP,bCAT,bCAX,bCA,bCAP,bCUOX,bCUO,bCUOP,
     bCOT,bCOX,bCO,bCOP,bCEX,bCE,bCEP,bCUT,bCUX,bCU,bCUP,bCURX,bCUR,bCYT,bCYX,bCY,bCYP,bCYRX,bCYR,
     bZZIT,bZZIX,bZZI,bZZIP,bZZIET,bZZIEX,bZZIE,bZZIEP,bZZAT,bZZAX,bZZA,bZZAP,bZZOX,bZZO,bZZOP,
     bZZEX,bZZE,bZZEP,bZZUX,bZZU,bZZUP,bZZURX,bZZUR,bZZYT,bZZYX,bZZY,bZZYP,bZZYRX,bZZYR,bNZIT,bNZIX,
     bNZI,bNZIP,bNZIEX,bNZIE,bNZIEP,bNZAT,bNZAX,bNZA,bNZAP,bNZUOX,bNZUO,bNZOX,bNZOP,bNZEX,bNZE,
     bNZUX,bNZU,bNZUP,bNZURX,bNZUR,bNZYT,bNZYX,bNZY,bNZYP,bNZYRX,bNZYR,bSIT,bSIX,bSI,bSIP,bSIEX,
     bSIE,bSIEP,bSAT,bSAX,bSA,bSAP,bSUOX,bSUO,bSUOP,bSOT,bSOX,bSO,bSOP,bSEX,bSE,bSEP,bSUT,bSUX,bSU,
     bSUP,bSURX,bSUR,bSYT,bSYX,bSY,bSYP,bSYRX,bSYR,bSSIT,bSSIX,bSSI,bSSIP,bSSIEX,bSSIE,bSSIEP,bSSAT,
     bSSAX,bSSA,bSSAP,bSSOT,bSSOX,bSSO,bSSOP,bSSEX,bSSE,bSSEP,bSSUT,bSSUX,bSSU,bSSUP,bSSYT,bSSYX,
     bSSY,bSSYP,bSSYRX,bSSYR,bZHAT,bZHAX,bZHA,bZHAP,bZHUOX,bZHUO,bZHUOP,bZHOT,bZHOX,bZHO,bZHOP,
     bZHET,bZHEX,bZHE,bZHEP,bZHUT,bZHUX,bZHU,bZHUP,bZHURX,bZHUR,bZHYT,bZHYX,bZHY,bZHYP,bZHYRX,bZHYR,
     bCHAT,bCHAX,bCHA,bCHAP,bCHUOT,bCHUOX,bCHUO,bCHUOP,bCHOT,bCHOX,bCHO,bCHOP,bCHET,bCHEX,bCHE,
     bCHEP,bCHUX,bCHU,bCHUP,bCHURX,bCHUR,bCHYT,bCHYX,bCHY,bCHYP,bCHYRX,bCHYR,bRRAX,bRRA,bRRUOX,
     bRRUO,bRROT,bRROX,bRRO,bRROP,bRRET,bRREX,bRRE,bRREP,bRRUT,bRRUX,bRRU,bRRUP,bRRURX,bRRUR,bRRYT,
     bRRYX,bRRY,bRRYP,bRRYRX,bRRYR,bNRAT,bNRAX,bNRA,bNRAP,bNROX,bNRO,bNROP,bNRET,bNREX,bNRE,bNREP,
     bNRUT,bNRUX,bNRU,bNRUP,bNRURX,bNRUR,bNRYT,bNRYX,bNRY,bNRYP,bNRYRX,bNRYR,bSHAT,bSHAX,bSHA,bSHAP,
     bSHUOX,bSHUO,bSHUOP,bSHOT,bSHOX,bSHO,bSHOP,bSHET,bSHEX,bSHE,bSHEP,bSHUT,bSHUX,bSHU,bSHUP,
     bSHURX,bSHUR,bSHYT,bSHYX,bSHY,bSHYP,bSHYRX,bSHYR,bRAT,bRAX,bRA,bRAP,bRUOX,bRUO,bRUOP,bROT,bROX,
     bRO,bROP,bREX,bRE,bREP,bRUT,bRUX,bRU,bRUP,bRURX,bRUR,bRYT,bRYX,bRY,bRYP,bRYRX,bRYR,bJIT,bJIX,
     bJI,bJIP,bJIET,bJIEX,bJIE,bJIEP,bJUOT,bJUOX,bJUO,bJUOP,bJOT,bJOX,bJO,bJOP,bJUT,bJUX,bJU,bJUP,
     bJURX,bJUR,bJYT,bJYX,bJY,bJYP,bJYRX,bJYR,bQIT,bQIX,bQI,bQIP,bQIET,bQIEX,bQIE,bQIEP,bQUOT,bQUOX,
     bQUO,bQUOP,bQOT,bQOX,bQO,bQOP,bQUT,bQUX,bQU,bQUP,bQURX,bQUR,bQYT,bQYX,bQY,bQYP,bQYRX,bQYR,
     bJJIT,bJJIX,bJJI,bJJIP,bJJIET,bJJIEX,bJJIE,bJJIEP,bJJUOX,bJJUO,bJJUOP,bJJOT,bJJOX,bJJO,bJJOP,
     bJJUT,bJJUX,bJJU,bJJUP,bJJURX,bJJUR,bJJYT,bJJYX,bJJY,bJJYP,bNJIT,bNJIX,bNJI,bNJIP,bNJIET,
     bNJIEX,bNJIE,bNJIEP,bNJUOX,bNJUO,bNJOT,bNJOX,bNJO,bNJOP,bNJUX,bNJU,bNJUP,bNJURX,bNJUR,bNJYT,
     bNJYX,bNJY,bNJYP,bNJYRX,bNJYR,bNYIT,bNYIX,bNYI,bNYIP,bNYIET,bNYIEX,bNYIE,bNYIEP,bNYUOX,bNYUO,
     bNYUOP,bNYOT,bNYOX,bNYO,bNYOP,bNYUT,bNYUX,bNYU,bNYUP,bXIT,bXIX,bXI,bXIP,bXIET,bXIEX,bXIE,bXIEP,
     bXUOX,bXUO,bXOT,bXOX,bXO,bXOP,bXYT,bXYX,bXY,bXYP,bXYRX,bXYR,bYIT,bYIX,bYI,bYIP,bYIET,bYIEX,
     bYIE,bYIEP,bYUOT,bYUOX,bYUO,bYUOP,bYOT,bYOX,bYO,bYOP,bYUT,bYUX,bYU,bYUP,bYURX,bYUR,bYYT,bYYX,
     bYY,bYYP,bYYRX,bYYR,,,,aRADICAL QOT,bLI,bKIT,bNYIP,bCYP,bSSI,bGGOP,bGEP,bMI,bHXIT,bLYR,bBBUT,
     bMOP,bYO,bPUT,bHXUO,bTAT,bGA,bZUP,bCYT,bDDUR,bBUR,bGGUO,bNYOP,bTU,bOP,bJJUT,bZOT,bPYT,bHMO,
     bYIT,bVUR,bSHY,bVEP,bZA,bJO,bNZUP,bJJY,bGOT,bJJIE,bWO,bDU,bSHUR,bLIE,bCY,bCUOP,bCIP,bHXOP,
     bSHAT,bZUR,bSHOP,bCHE,bZZIET,bNBIE,bKE"),
   (0xa4d0, "LISU LETTER BA,bPA,bPHA,bDA,bTA,bTHA,bGA,bKA,bKHA,bJA,bCA,bCHA,bDZA,bTSA,bTSHA,bMA,bNA,
     bLA,bSA,bZHA,bZA,bNGA,bHA,bXA,bHHA,bFA,bWA,bSHA,bYA,bGHA,bA,bAE,bE,bEU,bI,bO,bU,bUE,bUH,bOE,
     bTONE MYA TI,cNA PO,cMYA CYA,dBO,dNA,dJEU,aPUNCTUATION COMMA,bFULL STOP,VAI SYLLABLE EE,bEEN,
     bHEE,bWEE,bWEEN,bPEE,bBHEE,bBEE,bMBEE,bKPEE,bMGBEE,bGBEE,bFEE,bVEE,bTEE,bTHEE,bDHEE,bDHHEE,
     bLEE,bREE,bDEE,bNDEE,bSEE,bSHEE,bZEE,bZHEE,bCEE,bJEE,bNJEE,bYEE,bKEE,bNGGEE,bGEE,bMEE,bNEE,
     bNYEE,bI,bIN,bHI,bHIN,bWI,bWIN,bPI,bBHI,bBI,bMBI,bKPI,bMGBI,bGBI,bFI,bVI,bTI,bTHI,bDHI,bDHHI,
     bLI,bRI,bDI,bNDI,bSI,bSHI,bZI,bZHI,bCI,bJI,bNJI,bYI,bKI,bNGGI,bGI,bMI,bNI,bNYI,bA,bAN,bNGAN,
     bHA,bHAN,bWA,bWAN,bPA,bBHA,bBA,bMBA,bKPA,bKPAN,bMGBA,bGBA,bFA,bVA,bTA,bTHA,bDHA,bDHHA,bLA,bRA,
     bDA,bNDA,bSA,bSHA,bZA,bZHA,bCA,bJA,bNJA,bYA,bKA,bKAN,bNGGA,bGA,bMA,bNA,bNYA,bOO,bOON,bHOO,bWOO,
     bWOON,bPOO,bBHOO,bBOO,bMBOO,bKPOO,bMGBOO,bGBOO,bFOO,bVOO,bTOO,bTHOO,bDHOO,bDHHOO,bLOO,bROO,
     bDOO,bNDOO,bSOO,bSHOO,bZOO,bZHOO,bCOO,bJOO,bNJOO,bYOO,bKOO,bNGGOO,bGOO,bMOO,bNOO,bNYOO,bU,bUN,
     bHU,bHUN,bWU,bWUN,bPU,bBHU,bBU,bMBU,bKPU,bMGBU,bGBU,bFU,bVU,bTU,bTHU,bDHU,bDHHU,bLU,bRU,bDU,
     bNDU,bSU,bSHU,bZU,bZHU,bCU,bJU,bNJU,bYU,bKU,bNGGU,bGU,bMU,bNU,bNYU,bO,bON,bNGON,bHO,bHON,bWO,
     bWON,bPO,bBHO,bBO,bMBO,bKPO,bMGBO,bGBO,bGBON,bFO,bVO,bTO,bTHO,bDHO,bDHHO,bLO,bRO,bDO,bNDO,bSO,
     bSHO,bZO,bZHO,bCO,bJO,bNJO,bYO,bKO,bNGGO,bGO,bMO,bNO,bNYO,bE,bEN,bNGEN,bHE,bHEN,bWE,bWEN,bPE,
     bBHE,bBE,bMBE,bKPE,bKPEN,bMGBE,bGBE,bGBEN,bFE,bVE,bTE,bTHE,bDHE,bDHHE,bLE,bRE,bDE,bNDE,bSE,
     bSHE,bZE,bZHE,bCE,bJE,bNJE,bYE,bKE,bNGGE,bNGGEN,bGE,bGEN,bME,bNE,bNYE,bNG,bLENGTHENER,aCOMMA,
     aFULL STOP,aQUESTION MARK,aSYLLABLE NDOLE FA,cKA,cSOO,aSYMBOL FEENG,bKEENG,bTING,bNII,bBANG,
     bFAA,bTAA,bDANG,bDOONG,bKUNG,bTONG,bDO-O,bJONG,aDIGIT ZERO,bONE,bTWO,bTHREE,bFOUR,bFIVE,bSIX,
     bSEVEN,bEIGHT,bNINE,aSYLLABLE NDOLE MA,cDO"),
   (0xa640, "CYRILLIC CAPITAL LETTER ZEMLYA,aSMALL LETTER ZEMLYA,aCAPITAL LETTER DZELO,
     aSMALL LETTER DZELO,aCAPITAL LETTER REVERSED DZE,aSMALL LETTER REVERSED DZE,
     aCAPITAL LETTER IOTA,aSMALL LETTER IOTA,aCAPITAL LETTER DJERV,aSMALL LETTER DJERV,
     aCAPITAL LETTER MONOGRAPH UK,aSMALL LETTER MONOGRAPH UK,aCAPITAL LETTER BROAD OMEGA,
     aSMALL LETTER BROAD OMEGA,aCAPITAL LETTER NEUTRAL YER,aSMALL LETTER NEUTRAL YER,
     aCAPITAL LETTER YERU WITH BACK YER,aSMALL LETTER YERU WITH BACK YER,
     aCAPITAL LETTER IOTIFIED YAT,aSMALL LETTER IOTIFIED YAT,aCAPITAL LETTER REVERSED YU,
     aSMALL LETTER REVERSED YU,aCAPITAL LETTER IOTIFIED A,aSMALL LETTER IOTIFIED A,
     aCAPITAL LETTER CLOSED LITTLE YUS,aSMALL LETTER CLOSED LITTLE YUS,aCAPITAL LETTER BLENDED YUS,
     aSMALL LETTER BLENDED YUS,aCAPITAL LETTER IOTIFIED CLOSED LITTLE YUS,
     aSMALL LETTER IOTIFIED CLOSED LITTLE YUS,aCAPITAL LETTER YN,aSMALL LETTER YN,
     aCAPITAL LETTER REVERSED TSE,aSMALL LETTER REVERSED TSE,aCAPITAL LETTER SOFT DE,
     aSMALL LETTER SOFT DE,aCAPITAL LETTER SOFT EL,aSMALL LETTER SOFT EL,aCAPITAL LETTER SOFT EM,
     aSMALL LETTER SOFT EM,aCAPITAL LETTER MONOCULAR O,aSMALL LETTER MONOCULAR O,
     aCAPITAL LETTER BINOCULAR O,aSMALL LETTER BINOCULAR O,aCAPITAL LETTER DOUBLE MONOCULAR O,
     aSMALL LETTER DOUBLE MONOCULAR O,aLETTER MULTIOCULAR O,COMBINING CYRILLIC VZMET,
     bTEN MILLIONS SIGN,bHUNDRED MILLIONS SIGN,bTHOUSAND MILLIONS SIGN,SLAVONIC ASTERISK,
     COMBINING CYRILLIC LETTER UKRAINIAN IE,cI,cYI,cU,cHARD SIGN,cYERU,cSOFT SIGN,cOMEGA,bKAVYKA,
     bPAYEROK,CYRILLIC KAVYKA,aPAYEROK,aCAPITAL LETTER DWE,aSMALL LETTER DWE,aCAPITAL LETTER DZWE,
     aSMALL LETTER DZWE,aCAPITAL LETTER ZHWE,aSMALL LETTER ZHWE,aCAPITAL LETTER CCHE,
     aSMALL LETTER CCHE,aCAPITAL LETTER DZZE,aSMALL LETTER DZZE,aCAPITAL LETTER TE WITH MIDDLE HOOK,
     aSMALL LETTER TE WITH MIDDLE HOOK,aCAPITAL LETTER TWE,aSMALL LETTER TWE,aCAPITAL LETTER TSWE,
     aSMALL LETTER TSWE,aCAPITAL LETTER TSSE,aSMALL LETTER TSSE,aCAPITAL LETTER TCHE,
     aSMALL LETTER TCHE,aCAPITAL LETTER HWE,aSMALL LETTER HWE,aCAPITAL LETTER SHWE,
     aSMALL LETTER SHWE,aCAPITAL LETTER DOUBLE O,aSMALL LETTER DOUBLE O,aCAPITAL LETTER CROSSED O,
     aSMALL LETTER CROSSED O,MODIFIER LETTER CYRILLIC HARD SIGN,cSOFT SIGN,
     COMBINING CYRILLIC LETTER EF,cIOTIFIED E,BAMUM LETTER A,bKA,bU,bKU,bEE,bREE,bTAE,bO,bNYI,bI,
     bLA,bPA,bRII,bRIEE,bLEEEE,bMEEEE,bTAA,bNDAA,bNJAEM,bM,bSUU,bMU,bSHII,bSI,bSHEUX,bSEUX,bKYEE,
     bKET,bNUAE,bNU,bNJUAE,bYOQ,bSHU,bYUQ,bYA,bNSHA,bKEUX,bPEUX,bNJEE,bNTEE,bPUE,bWUE,bPEE,bFEE,bRU,
     bLU,bMI,bNI,bREUX,bRAE,bKEN,bNGKWAEN,bNGGA,bNGA,bSHO,bPUAE,bFU,bFOM,bWA,bNA,bLI,bPI,bLOQ,bKO,
     bMBEN,bREN,bMEN,bMA,bTI,bKI,bMO,bMBAA,bTET,bKPA,bTEN,bNTUU,bSAMBA,bFAAMAE,bKOVUU,bKOGHOM,
     aCOMBINING MARK KOQNDON,cTUKWENTIS,aNJAEMLI,aFULL STOP,aCOLON,aCOMMA,aSEMICOLON,aQUESTION MARK,
     ,,,,,,,,MODIFIER LETTER CHINESE TONE YIN PING,dYANG PING,dYIN SHANG,dYANG SHANG,dYIN QU,
     dYANG QU,dYIN RU,dYANG RU,bEXTRA-HIGH DOTTED TONE BAR,bHIGH DOTTED TONE BAR,
     bMID DOTTED TONE BAR,bLOW DOTTED TONE BAR,bEXTRA-LOW DOTTED TONE BAR,
     bEXTRA-HIGH DOTTED LEFT-STEM TONE BAR,bHIGH DOTTED LEFT-STEM TONE BAR,
     bMID DOTTED LEFT-STEM TONE BAR,bLOW DOTTED LEFT-STEM TONE BAR,
     bEXTRA-LOW DOTTED LEFT-STEM TONE BAR,bEXTRA-HIGH LEFT-STEM TONE BAR,bHIGH LEFT-STEM TONE BAR,
     bMID LEFT-STEM TONE BAR,bLOW LEFT-STEM TONE BAR,bEXTRA-LOW LEFT-STEM TONE BAR,
     bDOT VERTICAL BAR,cSLASH,cHORIZONTAL BAR,bLOWER RIGHT CORNER ANGLE,bRAISED UP ARROW,
     cDOWN ARROW,cEXCLAMATION MARK,cINVERTED EXCLAMATION MARK,bLOW INVERTED EXCLAMATION MARK,
     bSTRESS AND HIGH TONE,dLOW TONE,LATIN CAPITAL LETTER EGYPTOLOGICAL ALEF,
     aSMALL LETTER EGYPTOLOGICAL ALEF,aCAPITAL LETTER EGYPTOLOGICAL AIN,
     aSMALL LETTER EGYPTOLOGICAL AIN,aCAPITAL LETTER HENG,aSMALL LETTER HENG,aCAPITAL LETTER TZ,
     aSMALL LETTER TZ,aCAPITAL LETTER TRESILLO,aSMALL LETTER TRESILLO,aCAPITAL LETTER CUATRILLO,
     aSMALL LETTER CUATRILLO,aCAPITAL LETTER CUATRILLO WITH COMMA,
     aSMALL LETTER CUATRILLO WITH COMMA,aLETTER SMALL CAPITAL F,dS,aCAPITAL LETTER AA,
     aSMALL LETTER AA,aCAPITAL LETTER AO,aSMALL LETTER AO,aCAPITAL LETTER AU,aSMALL LETTER AU,
     aCAPITAL LETTER AV,aSMALL LETTER AV,aCAPITAL LETTER AV WITH HORIZONTAL BAR,
     aSMALL LETTER AV WITH HORIZONTAL BAR,aCAPITAL LETTER AY,aSMALL LETTER AY,
     aCAPITAL LETTER REVERSED C WITH DOT,aSMALL LETTER REVERSED C WITH DOT,
     aCAPITAL LETTER K WITH STROKE,aSMALL LETTER K WITH STROKE,
     aCAPITAL LETTER K WITH DIAGONAL STROKE,aSMALL LETTER K WITH DIAGONAL STROKE,
     aCAPITAL LETTER K WITH STROKE AND DIAGONAL STROKE,
     aSMALL LETTER K WITH STROKE AND DIAGONAL STROKE,aCAPITAL LETTER BROKEN L,
     aSMALL LETTER BROKEN L,aCAPITAL LETTER L WITH HIGH STROKE,aSMALL LETTER L WITH HIGH STROKE,
     aCAPITAL LETTER O WITH LONG STROKE OVERLAY,aSMALL LETTER O WITH LONG STROKE OVERLAY,
     aCAPITAL LETTER O WITH LOOP,aSMALL LETTER O WITH LOOP,aCAPITAL LETTER OO,aSMALL LETTER OO,
     aCAPITAL LETTER P WITH STROKE THROUGH DESCENDER,aSMALL LETTER P WITH STROKE THROUGH DESCENDER,
     aCAPITAL LETTER P WITH FLOURISH,aSMALL LETTER P WITH FLOURISH,
     aCAPITAL LETTER P WITH SQUIRREL TAIL,aSMALL LETTER P WITH SQUIRREL TAIL,
     aCAPITAL LETTER Q WITH STROKE THROUGH DESCENDER,aSMALL LETTER Q WITH STROKE THROUGH DESCENDER,
     aCAPITAL LETTER Q WITH DIAGONAL STROKE,aSMALL LETTER Q WITH DIAGONAL STROKE,
     aCAPITAL LETTER R ROTUNDA,aSMALL LETTER R ROTUNDA,aCAPITAL LETTER RUM ROTUNDA,
     aSMALL LETTER RUM ROTUNDA,aCAPITAL LETTER V WITH DIAGONAL STROKE,
     aSMALL LETTER V WITH DIAGONAL STROKE,aCAPITAL LETTER VY,aSMALL LETTER VY,
     aCAPITAL LETTER VISIGOTHIC Z,aSMALL LETTER VISIGOTHIC Z,aCAPITAL LETTER THORN WITH STROKE,
     aSMALL LETTER THORN WITH STROKE,aCAPITAL LETTER THORN WITH STROKE THROUGH DESCENDER,
     aSMALL LETTER THORN WITH STROKE THROUGH DESCENDER,aCAPITAL LETTER VEND,aSMALL LETTER VEND,
     aCAPITAL LETTER ET,aSMALL LETTER ET,aCAPITAL LETTER IS,aSMALL LETTER IS,aCAPITAL LETTER CON,
     aSMALL LETTER CON,MODIFIER LETTER US,LATIN SMALL LETTER DUM,cLUM,cMUM,cNUM,cRUM,
     aLETTER SMALL CAPITAL RUM,aSMALL LETTER TUM,cUM,aCAPITAL LETTER INSULAR D,
     aSMALL LETTER INSULAR D,aCAPITAL LETTER INSULAR F,aSMALL LETTER INSULAR F,
     aCAPITAL LETTER INSULAR G,cTURNED INSULAR G,aSMALL LETTER TURNED INSULAR G,
     aCAPITAL LETTER TURNED L,aSMALL LETTER TURNED L,aCAPITAL LETTER INSULAR R,
     aSMALL LETTER INSULAR R,aCAPITAL LETTER INSULAR S,aSMALL LETTER INSULAR S,
     aCAPITAL LETTER INSULAR T,aSMALL LETTER INSULAR T,MODIFIER LETTER LOW CIRCUMFLEX ACCENT,bCOLON,
     bSHORT EQUALS SIGN,LATIN CAPITAL LETTER SALTILLO,aSMALL LETTER SALTILLO,
     aCAPITAL LETTER TURNED H,aSMALL LETTER L WITH RETROFLEX HOOK AND BELT,aLETTER SINOLOGICAL DOT,
     aCAPITAL LETTER N WITH DESCENDER,aSMALL LETTER N WITH DESCENDER,aCAPITAL LETTER C WITH BAR,
     aSMALL LETTER C WITH BAR,ePALATAL HOOK,cH WITH PALATAL HOOK,aCAPITAL LETTER B WITH FLOURISH,
     aSMALL LETTER B WITH FLOURISH,aCAPITAL LETTER F WITH STROKE,aSMALL LETTER F WITH STROKE,
     aCAPITAL LETTER VOLAPUK AE,aSMALL LETTER VOLAPUK AE,aCAPITAL LETTER VOLAPUK OE,
     aSMALL LETTER VOLAPUK OE,aCAPITAL LETTER VOLAPUK UE,aSMALL LETTER VOLAPUK UE,
     aCAPITAL LETTER G WITH OBLIQUE STROKE,aSMALL LETTER G WITH OBLIQUE STROKE,
     aCAPITAL LETTER K WITH OBLIQUE STROKE,aSMALL LETTER K WITH OBLIQUE STROKE,
     aCAPITAL LETTER N WITH OBLIQUE STROKE,aSMALL LETTER N WITH OBLIQUE STROKE,
     aCAPITAL LETTER R WITH OBLIQUE STROKE,aSMALL LETTER R WITH OBLIQUE STROKE,
     aCAPITAL LETTER S WITH OBLIQUE STROKE,aSMALL LETTER S WITH OBLIQUE STROKE,
     aCAPITAL LETTER H WITH HOOK,cREVERSED OPEN E,cSCRIPT G,cL WITH BELT,cSMALL CAPITAL I,
     aLETTER SMALL CAPITAL Q,aCAPITAL LETTER TURNED K,dT,cJ WITH CROSSED-TAIL,cCHI,cBETA,
     aSMALL LETTER BETA,aCAPITAL LETTER OMEGA,aSMALL LETTER OMEGA,aCAPITAL LETTER U WITH STROKE,
     aSMALL LETTER U WITH STROKE,aCAPITAL LETTER GLOTTAL A,aSMALL LETTER GLOTTAL A,
     aCAPITAL LETTER GLOTTAL I,aSMALL LETTER GLOTTAL I,aCAPITAL LETTER GLOTTAL U,
     aSMALL LETTER GLOTTAL U,aCAPITAL LETTER OLD POLISH O,aSMALL LETTER OLD POLISH O,
     aCAPITAL LETTER ANGLICANA W,aSMALL LETTER ANGLICANA W,aCAPITAL LETTER C WITH PALATAL HOOK,
     cS WITH HOOK,cZ WITH PALATAL HOOK,cD WITH SHORT STROKE OVERLAY,
     aSMALL LETTER D WITH SHORT STROKE OVERLAY,aCAPITAL LETTER S WITH SHORT STROKE OVERLAY,
     aSMALL LETTER S WITH SHORT STROKE OVERLAY,,,,,,aCAPITAL LETTER CLOSED INSULAR G,
     aSMALL LETTER CLOSED INSULAR G,,cDOUBLE THORN,,dWYNN,aCAPITAL LETTER MIDDLE SCOTS S,
     aSMALL LETTER MIDDLE SCOTS S,aCAPITAL LETTER SIGMOID S,aSMALL LETTER SIGMOID S"),
   (0xa7f2, "MODIFIER LETTER CAPITAL C,cF,cQ,LATIN CAPITAL LETTER REVERSED HALF H,
     aSMALL LETTER REVERSED HALF H,aEPIGRAPHIC LETTER SIDEWAYS I,
     MODIFIER LETTER CAPITAL H WITH STROKE,bSMALL LIGATURE OE,LATIN LETTER SMALL CAPITAL TURNED M,
     aEPIGRAPHIC LETTER REVERSED F,dP,cINVERTED M,cI LONGA,cARCHAIC M,SYLOTI NAGRI LETTER A,cI,
     bSIGN DVISVARA,bLETTER U,cE,cO,bSIGN HASANTA,bLETTER KO,cKHO,cGO,cGHO,bSIGN ANUSVARA,
     bLETTER CO,cCHO,cJO,cJHO,cTTO,cTTHO,cDDO,cDDHO,cTO,cTHO,cDO,cDHO,cNO,cPO,cPHO,cBO,cBHO,cMO,cRO,
     cLO,cRRO,cSO,cHO,bVOWEL SIGN A,dI,dU,dE,dOO,bPOETRY MARK-1,cMARK-2,cMARK-3,cMARK-4,
     bSIGN ALTERNATE HASANTA,,,,NORTH INDIC FRACTION ONE QUARTER,dHALF,cTHREE QUARTERS,
     cONE SIXTEENTH,dEIGHTH,cTHREE SIXTEENTHS,bQUARTER MARK,bPLACEHOLDER MARK,bRUPEE MARK,
     bQUANTITY MARK,,,,,,,PHAGS-PA LETTER KA,bKHA,bGA,bNGA,bCA,bCHA,bJA,bNYA,bTA,bTHA,bDA,bNA,bPA,
     bPHA,bBA,bMA,bTSA,bTSHA,bDZA,bWA,bZHA,bZA,bSMALL A,bYA,bRA,bLA,bSHA,bSA,bHA,bA,bI,bU,bE,bO,bQA,
     bXA,bFA,bGGA,bEE,aSUBJOINED LETTER WA,cYA,aLETTER TTA,bTTHA,bDDA,bNNA,bALTERNATE YA,
     bVOICELESS SHA,bVOICED HA,bASPIRATED FA,aSUBJOINED LETTER RA,aSUPERFIXED LETTER RA,
     aLETTER CANDRABINDU,aSINGLE HEAD MARK,aDOUBLE HEAD MARK,aMARK SHAD,bDOUBLE SHAD,,,,,,,,,
     SAURASHTRA SIGN ANUSVARA,bVISARGA,aLETTER A,bAA,bI,bII,bU,bUU,bVOCALIC R,cRR,cL,cLL,bE,bEE,bAI,
     bO,bOO,bAU,bKA,bKHA,bGA,bGHA,bNGA,bCA,bCHA,bJA,bJHA,bNYA,bTTA,bTTHA,bDDA,bDDHA,bNNA,bTA,bTHA,
     bDA,bDHA,bNA,bPA,bPHA,bBA,bBHA,bMA,bYA,bRA,bLA,bVA,bSHA,bSSA,bSA,bHA,bLLA,
     aCONSONANT SIGN HAARU,aVOWEL SIGN AA,cI,cII,cU,cUU,cVOCALIC R,dRR,dL,dLL,cE,cEE,cAI,cO,cOO,cAU,
     aSIGN VIRAMA,bCANDRABINDU,,,,,,,,,aDANDA,aDOUBLE DANDA,aDIGIT ZERO,bONE,bTWO,bTHREE,bFOUR,
     bFIVE,bSIX,bSEVEN,bEIGHT,bNINE,,,,,,,COMBINING DEVANAGARI DIGIT ZERO,cONE,cTWO,cTHREE,cFOUR,
     cFIVE,cSIX,cSEVEN,cEIGHT,cNINE,bLETTER A,cU,cKA,cNA,cPA,cRA,cVI,bSIGN AVAGRAHA,
     DEVANAGARI SIGN SPACING CANDRABINDU,bCANDRABINDU VIRAMA,bDOUBLE CANDRABINDU VIRAMA,
     bCANDRABINDU TWO,cTHREE,cAVAGRAHA,bPUSHPIKA,aGAP FILLER,aCARET,aHEADSTROKE,aSIGN SIDDHAM,
     aJAIN OM,aLETTER AY,aVOWEL SIGN AY,KAYAH LI DIGIT ZERO,cONE,cTWO,cTHREE,cFOUR,cFIVE,cSIX,
     cSEVEN,cEIGHT,cNINE,bLETTER KA,cKHA,cGA,cNGA,cSA,cSHA,cZA,cNYA,cTA,cHTA,cNA,cPA,cPHA,cMA,cDA,
     cBA,cRA,cYA,cLA,cWA,cTHA,cHA,cVA,cCA,cA,cOE,cI,cOO,bVOWEL UE,cE,cU,cEE,cO,bTONE PLOPHU,cCALYA,
     dPLOPHU,bSIGN CWI,cSHYA,REJANG LETTER KA,bGA,bNGA,bTA,bDA,bNA,bPA,bBA,bMA,bCA,bJA,bNYA,bSA,bRA,
     bLA,bYA,bWA,bHA,bMBA,bNGGA,bNDA,bNYJA,bA,aVOWEL SIGN I,cU,cE,cAI,cO,cAU,cEU,cEA,
     aCONSONANT SIGN NG,cN,cR,cH,aVIRAMA"),
   (0xa95f, "REJANG SECTION MARK,HANGUL CHOSEONG TIKEUT-MIEUM,bTIKEUT-PIEUP,bTIKEUT-SIOS,
     bTIKEUT-CIEUC,bRIEUL-KIYEOK,bRIEUL-SSANGKIYEOK,bRIEUL-TIKEUT,bRIEUL-SSANGTIKEUT,bRIEUL-MIEUM,
     bRIEUL-PIEUP,bRIEUL-SSANGPIEUP,bRIEUL-KAPYEOUNPIEUP,bRIEUL-SIOS,bRIEUL-CIEUC,bRIEUL-KHIEUKH,
     bMIEUM-KIYEOK,bMIEUM-TIKEUT,bMIEUM-SIOS,bPIEUP-SIOS-THIEUTH,bPIEUP-KHIEUKH,bPIEUP-HIEUH,
     bSSANGSIOS-PIEUP,bIEUNG-RIEUL,bIEUNG-HIEUH,bSSANGCIEUC-HIEUH,bSSANGTHIEUTH,bPHIEUPH-HIEUH,
     bHIEUH-SIOS,bSSANGYEORINHIEUH,,,,JAVANESE SIGN PANYANGGA,bCECAK,bLAYAR,bWIGNYAN,aLETTER A,
     bI KAWI,bI,bII,bU,bPA CEREK,bNGA LELET,dRASWADI,bE,bAI,bO,bKA,cSASAK,cMURDA,bGA,cMURDA,bNGA,
     bCA,cMURDA,bJA,bNYA MURDA,bJA MAHAPRANA,bNYA,bTTA,cMAHAPRANA,bDDA,cMAHAPRANA,bNA MURDA,bTA,
     cMURDA,bDA,cMAHAPRANA,bNA,bPA,cMURDA,bBA,cMURDA,bMA,bYA,bRA,cAGUNG,bLA,bWA,bSA MURDA,
     cMAHAPRANA,bSA,bHA,aSIGN CECAK TELU,aVOWEL SIGN TARUNG,cTOLONG,cWULU,dMELIK,cSUKU,dMENDUT,
     cTALING,cDIRGA MURE,cPEPET,aCONSONANT SIGN KERET,cPENGKAL,cCAKRA,aPANGKON,aLEFT RERENGGAN,
     aRIGHT RERENGGAN,aPADA ANDAP,bMADYA,bLUHUR,bWINDU,bPANGKAT,bLINGSA,bLUNGSI,bADEG,cADEG,
     bPISELEH,aTURNED PADA PISELEH,,aPANGRANGKEP,aDIGIT ZERO,bONE,bTWO,bTHREE,bFOUR,bFIVE,bSIX,
     bSEVEN,bEIGHT,bNINE,,,,,aPADA TIRTA TUMETES,bISEN-ISEN,MYANMAR LETTER SHAN GHA,cCHA,cJHA,cNNA,
     cBHA,aSIGN SHAN SAW,aMODIFIER LETTER SHAN REDUPLICATION,aLETTER TAI LAING NYA,dFA,dGA,dGHA,dJA,
     dJHA,dDDA,dDDHA,dNNA,aTAI LAING DIGIT ZERO,dONE,dTWO,dTHREE,dFOUR,dFIVE,dSIX,dSEVEN,dEIGHT,
     dNINE,aLETTER TAI LAING LLA,dDA,dDHA,dBA,dBHA,,CHAM LETTER A,bI,bU,bE,bAI,bO,bKA,bKHA,bGA,bGHA,
     bNGUE,bNGA,bCHA,bCHHA,bJA,bJHA,bNHUE,bNHA,bNHJA,bTA,bTHA,bDA,bDHA,bNUE,bNA,bDDA,bPA,bPPA,bPHA,
     bBA,bBHA,bMUE,bMA,bBBA,bYA,bRA,bLA,bVA,bSSA,bSA,bHA,aVOWEL SIGN AA,cI,cII,cEI,cU,cOE,cO,cAI,
     cAU,cUE,aCONSONANT SIGN YA,cRA,cLA,cWA"),
   (0xaa40, "CHAM LETTER FINAL K,cG,cNG,aCONSONANT SIGN FINAL NG,aLETTER FINAL CH,cT,cN,cP,cY,cR,cL,
     cSS,aCONSONANT SIGN FINAL M,dH,,,aDIGIT ZERO,bONE,bTWO,bTHREE,bFOUR,bFIVE,bSIX,bSEVEN,bEIGHT,
     bNINE,,,aPUNCTUATION SPIRAL,bDANDA,bDOUBLE DANDA,bTRIPLE DANDA,MYANMAR LETTER KHAMTI GA,cCA,
     cCHA,cJA,cJHA,cNYA,cTTA,cTTHA,cDDA,cDDHA,cDHA,cNA,cSA,cHA,cHHA,cFA,
     aMODIFIER LETTER KHAMTI REDUPLICATION,aLETTER KHAMTI XA,cZA,cRA,aLOGOGRAM KHAMTI OAY,cQN,cHM,
     aSYMBOL AITON EXCLAMATION,cONE,cTWO,aLETTER AITON RA,aSIGN PAO KAREN TONE,bTAI LAING TONE-2,
     dTONE-5,aLETTER SHWE PALAUNG CHA,dSHA,TAI VIET LETTER LOW KO,cHIGH KO,cLOW KHO,cHIGH KHO,
     cLOW KHHO,cHIGH KHHO,cLOW GO,cHIGH GO,cLOW NGO,cHIGH NGO,cLOW CO,cHIGH CO,cLOW CHO,cHIGH CHO,
     cLOW SO,cHIGH SO,cLOW NYO,cHIGH NYO,cLOW DO,cHIGH DO,cLOW TO,cHIGH TO,cLOW THO,cHIGH THO,
     cLOW NO,cHIGH NO,cLOW BO,cHIGH BO,cLOW PO,cHIGH PO,cLOW PHO,cHIGH PHO,cLOW FO,cHIGH FO,cLOW MO,
     cHIGH MO,cLOW YO,cHIGH YO,cLOW RO,cHIGH RO,cLOW LO,cHIGH LO,cLOW VO,cHIGH VO,cLOW HO,cHIGH HO,
     cLOW O,cHIGH O,bMAI KANG,bVOWEL AA,cI,cUE,cU,cE,cO,bMAI KHIT,bVOWEL IA,cUEA,cUA,cAUE,cAY,cAN,
     cAM,bTONE MAI EK,dNUENG,dTHO,dSONG"),
   (0xaadb, "TAI VIET SYMBOL KON,cNUENG,cSAM,cHO HOI,cKOI KOI,MEETEI MAYEK LETTER E,cO,cCHA,cNYA,
     cTTA,cTTHA,cDDA,cDDHA,cNNA,cSHA,cSSA,bVOWEL SIGN II,dUU,dAAI,dAU,dAAU,bCHEIKHAN,bAHANG KHUDAM,
     bANJI,bSYLLABLE REPETITION MARK,bWORD REPETITION MARK,bVOWEL SIGN VISARGA,bVIRAMA"),
   (0xab01, "ETHIOPIC SYLLABLE TTHU,bTTHI,bTTHAA,bTTHEE,bTTHE,bTTHO,,,bDDHU,bDDHI,bDDHAA,bDDHEE,
     bDDHE,bDDHO,,,bDZU,bDZI,bDZAA,bDZEE,bDZE,bDZO"),
   (0xab20, "ETHIOPIC SYLLABLE CCHHA,bCCHHU,bCCHHI,bCCHHAA,bCCHHEE,bCCHHE,bCCHHO,,bBBA,bBBU,bBBI,
     bBBAA,bBBEE,bBBE,bBBO,,LATIN SMALL LETTER BARRED ALPHA,cA REVERSED-SCHWA,cBLACKLETTER E,
     cBARRED E,cE WITH FLOURISH,cLENIS F,cSCRIPT G WITH CROSSED-TAIL,cL WITH INVERTED LAZY S,
     eDOUBLE MIDDLE TILDE,eMIDDLE RING,cM WITH CROSSED-TAIL,cN WITH CROSSED-TAIL,
     cENG WITH CROSSED-TAIL,cBLACKLETTER O,eWITH STROKE,cOPEN O WITH STROKE,cINVERTED OE,
     cTURNED OE WITH STROKE,fHORIZONTAL STROKE,dO OPEN-O,fWITH STROKE,cSTIRRUP R,
     aLETTER SMALL CAPITAL R WITH RIGHT LEG,aSMALL LETTER R WITHOUT HANDLE,cDOUBLE R,
     cR WITH CROSSED-TAIL,cDOUBLE R WITH CROSSED-TAIL,cSCRIPT R,eWITH RING,cBASELINE ESH,
     cU WITH SHORT RIGHT LEG,dBAR WITH SHORT RIGHT LEG,cUI,cTURNED UI,cU WITH LEFT HOOK,cCHI,
     dWITH LOW RIGHT RING,fLEFT SERIF,cX WITH LOW RIGHT RING,eLONG LEFT LEG,hAND LOW RIGHT RING,
     hWITH SERIF,cY WITH SHORT RIGHT LEG,MODIFIER BREVE WITH INVERTED BREVE,aLETTER SMALL HENG,
     cL WITH INVERTED LAZY S,eMIDDLE TILDE,cU WITH LEFT HOOK,LATIN SMALL LETTER SAKHA YAT,
     cIOTIFIED E,cOPEN OE,cUO,cINVERTED ALPHA,GREEK LETTER SMALL CAPITAL OMEGA,
     LATIN SMALL LETTER DZ DIGRAPH WITH RETROFLEX HOOK,cTS DIGRAPH WITH RETROFLEX HOOK,
     cTURNED R WITH MIDDLE TILDE,MODIFIER LETTER SMALL TURNED W,bLEFT TACK,bRIGHT TACK,,,,,
     CHEROKEE SMALL LETTER A,cE,cI,cO,cU,cV,cGA,cKA,cGE,cGI,cGO,cGU,cGV,cHA,cHE,cHI,cHO,cHU,cHV,cLA,
     cLE,cLI,cLO,cLU,cLV,cMA,cME,cMI,cMO,cMU,cNA,cHNA,cNAH,cNE,cNI,cNO,cNU,cNV,cQUA,cQUE,cQUI,cQUO,
     cQUU,cQUV,cSA,cS,cSE,cSI,cSO,cSU,cSV,cDA,cTA,cDE,cTE,cDI,cTI,cDO,cDU,cDV,cDLA,cTLA,cTLE,cTLI,
     cTLO,cTLU,cTLV,cTSA,cTSE,cTSI,cTSO,cTSU,cTSV,cWA,cWE,cWI,cWO,cWU,cWV,cYA,
     MEETEI MAYEK LETTER KOK,cSAM,cLAI,cMIT,cPA,cNA,cCHIL,cTIL,cKHOU,cNGOU,cTHOU,cWAI,cYANG,cHUK,
     cUN,cI,cPHAM,cATIYA,cGOK,cJHAM,cRAI,cBA,cJIL,cDIL,cGHOU,cDHOU,cBHAM,cKOK LONSUM,cLAI LONSUM,
     cMIT LONSUM,cPA LONSUM,cNA LONSUM,cTIL LONSUM,cNGOU LONSUM,cI LONSUM,bVOWEL SIGN ONAP,dINAP,
     dANAP,dYENAP,dSOUNAP,dUNAP,dCHEINAP,dNUNG,bCHEIKHEI,bLUM IYEK,bAPUN IYEK,,,bDIGIT ZERO,cONE,
     cTWO,cTHREE,cFOUR,cFIVE,cSIX,cSEVEN,cEIGHT,cNINE"),
   (0xd7b0, "HANGUL JUNGSEONG O-YEO,bO-O-I,bYO-A,bYO-AE,bYO-EO,bU-YEO,bU-I-I,bYU-AE,bYU-O,bEU-A,
     bEU-EO,bEU-E,bEU-O,bI-YA-O,bI-YAE,bI-YEO,bI-YE,bI-O-I,bI-YO,bI-YU,bI-I,bARAEA-A,bARAEA-E,,,,,
     aJONGSEONG NIEUN-RIEUL,bNIEUN-CHIEUCH,bSSANGTIKEUT,bSSANGTIKEUT-PIEUP,bTIKEUT-PIEUP,
     bTIKEUT-SIOS,bTIKEUT-SIOS-KIYEOK,bTIKEUT-CIEUC,bTIKEUT-CHIEUCH,bTIKEUT-THIEUTH,
     bRIEUL-SSANGKIYEOK,bRIEUL-KIYEOK-HIEUH,bSSANGRIEUL-KHIEUKH,bRIEUL-MIEUM-HIEUH,
     bRIEUL-PIEUP-TIKEUT,bRIEUL-PIEUP-PHIEUPH,bRIEUL-YESIEUNG,bRIEUL-YEORINHIEUH-HIEUH,
     bKAPYEOUNRIEUL,bMIEUM-NIEUN,bMIEUM-SSANGNIEUN,bSSANGMIEUM,bMIEUM-PIEUP-SIOS,bMIEUM-CIEUC,
     bPIEUP-TIKEUT,bPIEUP-RIEUL-PHIEUPH,bPIEUP-MIEUM,bSSANGPIEUP,bPIEUP-SIOS-TIKEUT,bPIEUP-CIEUC,
     bPIEUP-CHIEUCH,bSIOS-MIEUM,bSIOS-KAPYEOUNPIEUP,bSSANGSIOS-KIYEOK,bSSANGSIOS-TIKEUT,
     bSIOS-PANSIOS,bSIOS-CIEUC,bSIOS-CHIEUCH,bSIOS-THIEUTH,bSIOS-HIEUH,bPANSIOS-PIEUP,
     bPANSIOS-KAPYEOUNPIEUP,bYESIEUNG-MIEUM,bYESIEUNG-HIEUH,bCIEUC-PIEUP,bCIEUC-SSANGPIEUP,
     bSSANGCIEUC,bPHIEUPH-SIOS,bPHIEUPH-THIEUTH"),
   (0xfb00, "LATIN SMALL LIGATURE FF,cFI,cFL,cFFI,cFFL,cLONG S T,cST"),
   (0xfb13, "ARMENIAN SMALL LIGATURE MEN NOW,dECH,dINI,cVEW NOW,cMEN XEH,,,,,,
     HEBREW LETTER YOD WITH HIRIQ,aPOINT JUDEO-SPANISH VARIKA,aLIGATURE YIDDISH YOD YOD PATAH,
     aLETTER ALTERNATIVE AYIN,bWIDE ALEF,cDALET,cHE,cKAF,cLAMED,cFINAL MEM,cRESH,cTAV,
     bALTERNATIVE PLUS SIGN,bSHIN WITH SHIN DOT,dSIN DOT,dDAGESH AND SHIN DOT,fSIN DOT,
     bALEF WITH PATAH,dQAMATS,dMAPIQ,bBET WITH DAGESH,bGIMEL WITH DAGESH,bDALET WITH DAGESH,
     bHE WITH MAPIQ,bVAV WITH DAGESH,bZAYIN WITH DAGESH,,bTET WITH DAGESH,bYOD WITH DAGESH,
     bFINAL KAF WITH DAGESH,bKAF WITH DAGESH,bLAMED WITH DAGESH,,bMEM WITH DAGESH,,bNUN WITH DAGESH,
     bSAMEKH WITH DAGESH,,bFINAL PE WITH DAGESH,bPE WITH DAGESH,,bTSADI WITH DAGESH,
     bQOF WITH DAGESH,bRESH WITH DAGESH,bSHIN WITH DAGESH,bTAV WITH DAGESH,bVAV WITH HOLAM,
     bBET WITH RAFE,bKAF WITH RAFE,bPE WITH RAFE,aLIGATURE ALEF LAMED,
     ARABIC LETTER ALEF WASLA ISOLATED FORM,dFINAL FORM,bBEEH ISOLATED FORM,cFINAL FORM,
     cINITIAL FORM,cMEDIAL FORM,bPEH ISOLATED FORM,cFINAL FORM,cINITIAL FORM,cMEDIAL FORM,
     bBEHEH ISOLATED FORM,cFINAL FORM,cINITIAL FORM,cMEDIAL FORM,bTTEHEH ISOLATED FORM,cFINAL FORM,
     cINITIAL FORM,cMEDIAL FORM,bTEHEH ISOLATED FORM,cFINAL FORM,cINITIAL FORM,cMEDIAL FORM,
     bTTEH ISOLATED FORM,cFINAL FORM,cINITIAL FORM,cMEDIAL FORM,bVEH ISOLATED FORM,cFINAL FORM,
     cINITIAL FORM,cMEDIAL FORM,bPEHEH ISOLATED FORM,cFINAL FORM,cINITIAL FORM,cMEDIAL FORM,
     bDYEH ISOLATED FORM,cFINAL FORM,cINITIAL FORM,cMEDIAL FORM,bNYEH ISOLATED FORM,cFINAL FORM,
     cINITIAL FORM,cMEDIAL FORM,bTCHEH ISOLATED FORM,cFINAL FORM,cINITIAL FORM,cMEDIAL FORM,
     bTCHEHEH ISOLATED FORM,cFINAL FORM,cINITIAL FORM,cMEDIAL FORM,bDDAHAL ISOLATED FORM,
     cFINAL FORM,bDAHAL ISOLATED FORM,cFINAL FORM,bDUL ISOLATED FORM,cFINAL FORM,
     bDDAL ISOLATED FORM,cFINAL FORM,bJEH ISOLATED FORM,cFINAL FORM,bRREH ISOLATED FORM,cFINAL FORM,
     bKEHEH ISOLATED FORM,cFINAL FORM,cINITIAL FORM,cMEDIAL FORM,bGAF ISOLATED FORM,cFINAL FORM,
     cINITIAL FORM,cMEDIAL FORM,bGUEH ISOLATED FORM,cFINAL FORM,cINITIAL FORM,cMEDIAL FORM,
     bNGOEH ISOLATED FORM,cFINAL FORM,cINITIAL FORM,cMEDIAL FORM,bNOON GHUNNA ISOLATED FORM,
     dFINAL FORM,bRNOON ISOLATED FORM,cFINAL FORM,cINITIAL FORM,cMEDIAL FORM,
     bHEH WITH YEH ABOVE ISOLATED FORM,fFINAL FORM,cGOAL ISOLATED FORM,dFINAL FORM,dINITIAL FORM,
     dMEDIAL FORM,cDOACHASHMEE ISOLATED FORM,dFINAL FORM,dINITIAL FORM,dMEDIAL FORM,
     bYEH BARREE ISOLATED FORM,dFINAL FORM,dWITH HAMZA ABOVE ISOLATED FORM,gFINAL FORM,
     aSYMBOL DOT ABOVE,cBELOW,bTWO DOTS ABOVE,dBELOW,bTHREE DOTS ABOVE,dBELOW,
     dPOINTING DOWNWARDS ABOVE,fBELOW,bFOUR DOTS ABOVE,dBELOW,bDOUBLE VERTICAL BAR BELOW,
     bTWO DOTS VERTICALLY ABOVE,eBELOW,bRING,bSMALL TAH ABOVE,dBELOW,bWASLA ABOVE"),
   (0xfbd3, "ARABIC LETTER NG ISOLATED FORM,cFINAL FORM,cINITIAL FORM,cMEDIAL FORM,bU ISOLATED FORM,
     cFINAL FORM,bOE ISOLATED FORM,cFINAL FORM,bYU ISOLATED FORM,cFINAL FORM,
     bU WITH HAMZA ABOVE ISOLATED FORM,bVE ISOLATED FORM,cFINAL FORM,bKIRGHIZ OE ISOLATED FORM,
     dFINAL FORM,cYU ISOLATED FORM,dFINAL FORM,bE ISOLATED FORM,cFINAL FORM,cINITIAL FORM,
     cMEDIAL FORM,bUIGHUR KAZAKH KIRGHIZ ALEF MAKSURA INITIAL FORM,gMEDIAL FORM,
     aLIGATURE YEH WITH HAMZA ABOVE WITH ALEF ISOLATED FORM,hFINAL FORM,gAE ISOLATED FORM,
     hFINAL FORM,gWAW ISOLATED FORM,hFINAL FORM,gU ISOLATED FORM,hFINAL FORM,gOE ISOLATED FORM,
     hFINAL FORM,gYU ISOLATED FORM,hFINAL FORM,gE ISOLATED FORM,hFINAL FORM,hINITIAL FORM,
     bUIGHUR KIRGHIZ YEH WITH HAMZA ABOVE WITH ALEF MAKSURA ISOLATED FORM,kFINAL FORM,kINITIAL FORM,
     aLETTER FARSI YEH ISOLATED FORM,dFINAL FORM,dINITIAL FORM,dMEDIAL FORM,
     aLIGATURE YEH WITH HAMZA ABOVE WITH JEEM ISOLATED FORM,gHAH ISOLATED FORM,gMEEM ISOLATED FORM,
     gALEF MAKSURA ISOLATED FORM,gYEH ISOLATED FORM,bBEH WITH JEEM ISOLATED FORM,dHAH ISOLATED FORM,
     dKHAH ISOLATED FORM,dMEEM ISOLATED FORM,dALEF MAKSURA ISOLATED FORM,dYEH ISOLATED FORM,
     bTEH WITH JEEM ISOLATED FORM,dHAH ISOLATED FORM,dKHAH ISOLATED FORM,dMEEM ISOLATED FORM,
     dALEF MAKSURA ISOLATED FORM,dYEH ISOLATED FORM,bTHEH WITH JEEM ISOLATED FORM,
     dMEEM ISOLATED FORM,dALEF MAKSURA ISOLATED FORM,dYEH ISOLATED FORM,
     bJEEM WITH HAH ISOLATED FORM,dMEEM ISOLATED FORM,bHAH WITH JEEM ISOLATED FORM,
     dMEEM ISOLATED FORM,bKHAH WITH JEEM ISOLATED FORM,dHAH ISOLATED FORM,dMEEM ISOLATED FORM,
     bSEEN WITH JEEM ISOLATED FORM,dHAH ISOLATED FORM,dKHAH ISOLATED FORM,dMEEM ISOLATED FORM,
     bSAD WITH HAH ISOLATED FORM,dMEEM ISOLATED FORM,bDAD WITH JEEM ISOLATED FORM,
     dHAH ISOLATED FORM,dKHAH ISOLATED FORM,dMEEM ISOLATED FORM,bTAH WITH HAH ISOLATED FORM,
     dMEEM ISOLATED FORM,bZAH WITH MEEM ISOLATED FORM,bAIN WITH JEEM ISOLATED FORM,
     dMEEM ISOLATED FORM,bGHAIN WITH JEEM ISOLATED FORM,dMEEM ISOLATED FORM,
     bFEH WITH JEEM ISOLATED FORM,dHAH ISOLATED FORM,dKHAH ISOLATED FORM,dMEEM ISOLATED FORM,
     dALEF MAKSURA ISOLATED FORM,dYEH ISOLATED FORM,bQAF WITH HAH ISOLATED FORM,dMEEM ISOLATED FORM,
     dALEF MAKSURA ISOLATED FORM,dYEH ISOLATED FORM,bKAF WITH ALEF ISOLATED FORM,
     dJEEM ISOLATED FORM,dHAH ISOLATED FORM,dKHAH ISOLATED FORM,dLAM ISOLATED FORM,
     dMEEM ISOLATED FORM,dALEF MAKSURA ISOLATED FORM,dYEH ISOLATED FORM,
     bLAM WITH JEEM ISOLATED FORM,dHAH ISOLATED FORM,dKHAH ISOLATED FORM,dMEEM ISOLATED FORM,
     dALEF MAKSURA ISOLATED FORM,dYEH ISOLATED FORM,bMEEM WITH JEEM ISOLATED FORM,
     dHAH ISOLATED FORM,dKHAH ISOLATED FORM,dMEEM ISOLATED FORM,dALEF MAKSURA ISOLATED FORM,
     dYEH ISOLATED FORM,bNOON WITH JEEM ISOLATED FORM,dHAH ISOLATED FORM,dKHAH ISOLATED FORM,
     dMEEM ISOLATED FORM,dALEF MAKSURA ISOLATED FORM,dYEH ISOLATED FORM,
     bHEH WITH JEEM ISOLATED FORM,dMEEM ISOLATED FORM,dALEF MAKSURA ISOLATED FORM,
     dYEH ISOLATED FORM,bYEH WITH JEEM ISOLATED FORM,dHAH ISOLATED FORM,dKHAH ISOLATED FORM,
     dMEEM ISOLATED FORM,dALEF MAKSURA ISOLATED FORM,dYEH ISOLATED FORM,
     bTHAL WITH SUPERSCRIPT ALEF ISOLATED FORM,bREH WITH SUPERSCRIPT ALEF ISOLATED FORM,
     bALEF MAKSURA WITH SUPERSCRIPT ALEF ISOLATED FORM,bSHADDA WITH DAMMATAN ISOLATED FORM,
     dKASRATAN ISOLATED FORM,dFATHA ISOLATED FORM,dDAMMA ISOLATED FORM,dKASRA ISOLATED FORM,
     dSUPERSCRIPT ALEF ISOLATED FORM,bYEH WITH HAMZA ABOVE WITH REH FINAL FORM,gZAIN FINAL FORM,
     gMEEM FINAL FORM,gNOON FINAL FORM,gALEF MAKSURA FINAL FORM,gYEH FINAL FORM,
     bBEH WITH REH FINAL FORM,dZAIN FINAL FORM,dMEEM FINAL FORM,dNOON FINAL FORM,
     dALEF MAKSURA FINAL FORM,dYEH FINAL FORM,bTEH WITH REH FINAL FORM,dZAIN FINAL FORM,
     dMEEM FINAL FORM,dNOON FINAL FORM,dALEF MAKSURA FINAL FORM,dYEH FINAL FORM,
     bTHEH WITH REH FINAL FORM,dZAIN FINAL FORM,dMEEM FINAL FORM,dNOON FINAL FORM,
     dALEF MAKSURA FINAL FORM,dYEH FINAL FORM,bFEH WITH ALEF MAKSURA FINAL FORM,dYEH FINAL FORM,
     bQAF WITH ALEF MAKSURA FINAL FORM,dYEH FINAL FORM,bKAF WITH ALEF FINAL FORM,dLAM FINAL FORM,
     dMEEM FINAL FORM,dALEF MAKSURA FINAL FORM,dYEH FINAL FORM,bLAM WITH MEEM FINAL FORM,
     dALEF MAKSURA FINAL FORM,dYEH FINAL FORM,bMEEM WITH ALEF FINAL FORM,dMEEM FINAL FORM,
     bNOON WITH REH FINAL FORM,dZAIN FINAL FORM,dMEEM FINAL FORM,dNOON FINAL FORM,
     dALEF MAKSURA FINAL FORM,dYEH FINAL FORM,bALEF MAKSURA WITH SUPERSCRIPT ALEF FINAL FORM,
     bYEH WITH REH FINAL FORM,dZAIN FINAL FORM,dMEEM FINAL FORM,dNOON FINAL FORM,
     dALEF MAKSURA FINAL FORM,dYEH FINAL FORM,dHAMZA ABOVE WITH JEEM INITIAL FORM,gHAH INITIAL FORM,
     gKHAH INITIAL FORM,gMEEM INITIAL FORM,gHEH INITIAL FORM,bBEH WITH JEEM INITIAL FORM,
     dHAH INITIAL FORM,dKHAH INITIAL FORM,dMEEM INITIAL FORM,dHEH INITIAL FORM,
     bTEH WITH JEEM INITIAL FORM,dHAH INITIAL FORM,dKHAH INITIAL FORM,dMEEM INITIAL FORM,
     dHEH INITIAL FORM,bTHEH WITH MEEM INITIAL FORM,bJEEM WITH HAH INITIAL FORM,dMEEM INITIAL FORM,
     bHAH WITH JEEM INITIAL FORM,dMEEM INITIAL FORM,bKHAH WITH JEEM INITIAL FORM,dMEEM INITIAL FORM,
     bSEEN WITH JEEM INITIAL FORM,dHAH INITIAL FORM,dKHAH INITIAL FORM,dMEEM INITIAL FORM,
     bSAD WITH HAH INITIAL FORM,dKHAH INITIAL FORM,dMEEM INITIAL FORM,bDAD WITH JEEM INITIAL FORM,
     dHAH INITIAL FORM,dKHAH INITIAL FORM,dMEEM INITIAL FORM,bTAH WITH HAH INITIAL FORM,
     bZAH WITH MEEM INITIAL FORM,bAIN WITH JEEM INITIAL FORM,dMEEM INITIAL FORM,
     bGHAIN WITH JEEM INITIAL FORM,dMEEM INITIAL FORM,bFEH WITH JEEM INITIAL FORM,dHAH INITIAL FORM,
     dKHAH INITIAL FORM,dMEEM INITIAL FORM,bQAF WITH HAH INITIAL FORM,dMEEM INITIAL FORM,
     bKAF WITH JEEM INITIAL FORM,dHAH INITIAL FORM,dKHAH INITIAL FORM,dLAM INITIAL FORM,
     dMEEM INITIAL FORM,bLAM WITH JEEM INITIAL FORM,dHAH INITIAL FORM,dKHAH INITIAL FORM,
     dMEEM INITIAL FORM,dHEH INITIAL FORM,bMEEM WITH JEEM INITIAL FORM,dHAH INITIAL FORM,
     dKHAH INITIAL FORM,dMEEM INITIAL FORM,bNOON WITH JEEM INITIAL FORM,dHAH INITIAL FORM,
     dKHAH INITIAL FORM,dMEEM INITIAL FORM,dHEH INITIAL FORM,bHEH WITH JEEM INITIAL FORM,
     dMEEM INITIAL FORM,dSUPERSCRIPT ALEF INITIAL FORM,bYEH WITH JEEM INITIAL FORM,
     dHAH INITIAL FORM,dKHAH INITIAL FORM,dMEEM INITIAL FORM,dHEH INITIAL FORM,
     dHAMZA ABOVE WITH MEEM MEDIAL FORM,gHEH MEDIAL FORM,bBEH WITH MEEM MEDIAL FORM,
     dHEH MEDIAL FORM,bTEH WITH MEEM MEDIAL FORM,dHEH MEDIAL FORM,bTHEH WITH MEEM MEDIAL FORM,
     dHEH MEDIAL FORM,bSEEN WITH MEEM MEDIAL FORM,dHEH MEDIAL FORM,bSHEEN WITH MEEM MEDIAL FORM,
     dHEH MEDIAL FORM,bKAF WITH LAM MEDIAL FORM,dMEEM MEDIAL FORM,bLAM WITH MEEM MEDIAL FORM,
     bNOON WITH MEEM MEDIAL FORM,dHEH MEDIAL FORM,bYEH WITH MEEM MEDIAL FORM,dHEH MEDIAL FORM,
     bSHADDA WITH FATHA MEDIAL FORM,dDAMMA MEDIAL FORM,dKASRA MEDIAL FORM,
     bTAH WITH ALEF MAKSURA ISOLATED FORM,dYEH ISOLATED FORM,bAIN WITH ALEF MAKSURA ISOLATED FORM,
     dYEH ISOLATED FORM,bGHAIN WITH ALEF MAKSURA ISOLATED FORM,dYEH ISOLATED FORM,
     bSEEN WITH ALEF MAKSURA ISOLATED FORM,dYEH ISOLATED FORM,
     bSHEEN WITH ALEF MAKSURA ISOLATED FORM,dYEH ISOLATED FORM,bHAH WITH ALEF MAKSURA ISOLATED FORM,
     dYEH ISOLATED FORM,bJEEM WITH ALEF MAKSURA ISOLATED FORM,dYEH ISOLATED FORM,
     bKHAH WITH ALEF MAKSURA ISOLATED FORM,dYEH ISOLATED FORM,bSAD WITH ALEF MAKSURA ISOLATED FORM,
     dYEH ISOLATED FORM,bDAD WITH ALEF MAKSURA ISOLATED FORM,dYEH ISOLATED FORM,
     bSHEEN WITH JEEM ISOLATED FORM,dHAH ISOLATED FORM,dKHAH ISOLATED FORM,dMEEM ISOLATED FORM,
     dREH ISOLATED FORM,bSEEN WITH REH ISOLATED FORM,bSAD WITH REH ISOLATED FORM,
     bDAD WITH REH ISOLATED FORM,bTAH WITH ALEF MAKSURA FINAL FORM,dYEH FINAL FORM,
     bAIN WITH ALEF MAKSURA FINAL FORM,dYEH FINAL FORM,bGHAIN WITH ALEF MAKSURA FINAL FORM,
     dYEH FINAL FORM,bSEEN WITH ALEF MAKSURA FINAL FORM,dYEH FINAL FORM,
     bSHEEN WITH ALEF MAKSURA FINAL FORM,dYEH FINAL FORM,bHAH WITH ALEF MAKSURA FINAL FORM,
     dYEH FINAL FORM,bJEEM WITH ALEF MAKSURA FINAL FORM,dYEH FINAL FORM,
     bKHAH WITH ALEF MAKSURA FINAL FORM,dYEH FINAL FORM,bSAD WITH ALEF MAKSURA FINAL FORM,
     dYEH FINAL FORM,bDAD WITH ALEF MAKSURA FINAL FORM,dYEH FINAL FORM,bSHEEN WITH JEEM FINAL FORM,
     dHAH FINAL FORM,dKHAH FINAL FORM,dMEEM FINAL FORM,dREH FINAL FORM,bSEEN WITH REH FINAL FORM,
     bSAD WITH REH FINAL FORM,bDAD WITH REH FINAL FORM,bSHEEN WITH JEEM INITIAL FORM,
     dHAH INITIAL FORM,dKHAH INITIAL FORM,dMEEM INITIAL FORM,bSEEN WITH HEH INITIAL FORM,
     bSHEEN WITH HEH INITIAL FORM,bTAH WITH MEEM INITIAL FORM,bSEEN WITH JEEM MEDIAL FORM,
     dHAH MEDIAL FORM,dKHAH MEDIAL FORM,bSHEEN WITH JEEM MEDIAL FORM,dHAH MEDIAL FORM,
     dKHAH MEDIAL FORM,bTAH WITH MEEM MEDIAL FORM,bZAH WITH MEEM MEDIAL FORM,
     bALEF WITH FATHATAN FINAL FORM,eISOLATED FORM,ORNATE LEFT PARENTHESIS,aRIGHT PARENTHESIS,
     ARABIC LIGATURE RAHIMAHU ALLAAH,bRADI ALLAAHU ANH,dANHAA,dANHUM,dANHUMAA,dANHUNNA,
     bSALLALLAAHU ALAYHI WA-AALIH,bALAYHI AS-SALAAM,bALAYHIM AS-SALAAM,bALAYHIMAA AS-SALAAM,
     bALAYHI AS-SALAATU WAS-SALAAM,bQUDDISA SIRRAH,bSALLALLAHU ALAYHI WAAALIHEE WA-SALLAM,
     bALAYHAA AS-SALAAM,bTABAARAKA WA-TAAALAA,bRAHIMAHUM ALLAAH,
     bTEH WITH JEEM WITH MEEM INITIAL FORM,dHAH WITH JEEM FINAL FORM,gINITIAL FORM,
     fMEEM INITIAL FORM,dKHAH WITH MEEM INITIAL FORM,dMEEM WITH JEEM INITIAL FORM,fHAH INITIAL FORM,
     fKHAH INITIAL FORM,bJEEM WITH MEEM WITH HAH FINAL FORM,gINITIAL FORM,
     bHAH WITH MEEM WITH YEH FINAL FORM,fALEF MAKSURA FINAL FORM,
     bSEEN WITH HAH WITH JEEM INITIAL FORM,dJEEM WITH HAH INITIAL FORM,fALEF MAKSURA FINAL FORM,
     dMEEM WITH HAH FINAL FORM,gINITIAL FORM,fJEEM INITIAL FORM,fMEEM FINAL FORM,gINITIAL FORM,
     bSAD WITH HAH WITH HAH FINAL FORM,gINITIAL FORM,dMEEM WITH MEEM FINAL FORM,
     bSHEEN WITH HAH WITH MEEM FINAL FORM,gINITIAL FORM,dJEEM WITH YEH FINAL FORM,
     dMEEM WITH KHAH FINAL FORM,gINITIAL FORM,fMEEM FINAL FORM,gINITIAL FORM,
     bDAD WITH HAH WITH ALEF MAKSURA FINAL FORM,dKHAH WITH MEEM FINAL FORM,gINITIAL FORM,
     bTAH WITH MEEM WITH HAH FINAL FORM,gINITIAL FORM,fMEEM INITIAL FORM,fYEH FINAL FORM,
     bAIN WITH JEEM WITH MEEM FINAL FORM,dMEEM WITH MEEM FINAL FORM,gINITIAL FORM,
     fALEF MAKSURA FINAL FORM,bGHAIN WITH MEEM WITH MEEM FINAL FORM,fYEH FINAL FORM,
     fALEF MAKSURA FINAL FORM,bFEH WITH KHAH WITH MEEM FINAL FORM,gINITIAL FORM,
     bQAF WITH MEEM WITH HAH FINAL FORM,fMEEM FINAL FORM,bLAM WITH HAH WITH MEEM FINAL FORM,
     fYEH FINAL FORM,fALEF MAKSURA FINAL FORM,dJEEM WITH JEEM INITIAL FORM,gFINAL FORM,
     dKHAH WITH MEEM FINAL FORM,gINITIAL FORM,dMEEM WITH HAH FINAL FORM,gINITIAL FORM,
     bMEEM WITH HAH WITH JEEM INITIAL FORM,fMEEM INITIAL FORM,fYEH FINAL FORM,
     dJEEM WITH HAH INITIAL FORM,fMEEM INITIAL FORM,dKHAH WITH JEEM INITIAL FORM,fMEEM INITIAL FORM,
     ,,dJEEM WITH KHAH INITIAL FORM,bHEH WITH MEEM WITH JEEM INITIAL FORM,fMEEM INITIAL FORM,
     bNOON WITH HAH WITH MEEM INITIAL FORM,fALEF MAKSURA FINAL FORM,dJEEM WITH MEEM FINAL FORM,
     gINITIAL FORM,fALEF MAKSURA FINAL FORM,dMEEM WITH YEH FINAL FORM,fALEF MAKSURA FINAL FORM,
     bYEH WITH MEEM WITH MEEM FINAL FORM,gINITIAL FORM,bBEH WITH KHAH WITH YEH FINAL FORM,
     bTEH WITH JEEM WITH YEH FINAL FORM,fALEF MAKSURA FINAL FORM,dKHAH WITH YEH FINAL FORM,
     fALEF MAKSURA FINAL FORM,dMEEM WITH YEH FINAL FORM,fALEF MAKSURA FINAL FORM,
     bJEEM WITH MEEM WITH YEH FINAL FORM,dHAH WITH ALEF MAKSURA FINAL FORM,
     dMEEM WITH ALEF MAKSURA FINAL FORM,bSEEN WITH KHAH WITH ALEF MAKSURA FINAL FORM,
     bSAD WITH HAH WITH YEH FINAL FORM,bSHEEN WITH HAH WITH YEH FINAL FORM,
     bDAD WITH HAH WITH YEH FINAL FORM,bLAM WITH JEEM WITH YEH FINAL FORM,dMEEM WITH YEH FINAL FORM,
     bYEH WITH HAH WITH YEH FINAL FORM,dJEEM WITH YEH FINAL FORM,dMEEM WITH YEH FINAL FORM,
     bMEEM WITH MEEM WITH YEH FINAL FORM,bQAF WITH MEEM WITH YEH FINAL FORM,
     bNOON WITH HAH WITH YEH FINAL FORM,bQAF WITH MEEM WITH HAH INITIAL FORM,
     bLAM WITH HAH WITH MEEM INITIAL FORM,bAIN WITH MEEM WITH YEH FINAL FORM,
     bKAF WITH MEEM WITH YEH FINAL FORM,bNOON WITH JEEM WITH HAH INITIAL FORM,
     bMEEM WITH KHAH WITH YEH FINAL FORM,bLAM WITH JEEM WITH MEEM INITIAL FORM,
     bKAF WITH MEEM WITH MEEM FINAL FORM,bLAM WITH JEEM WITH MEEM FINAL FORM,
     bNOON WITH JEEM WITH HAH FINAL FORM,bJEEM WITH HAH WITH YEH FINAL FORM,
     bHAH WITH JEEM WITH YEH FINAL FORM,bMEEM WITH JEEM WITH YEH FINAL FORM,
     bFEH WITH MEEM WITH YEH FINAL FORM,bBEH WITH HAH WITH YEH FINAL FORM,
     bKAF WITH MEEM WITH MEEM INITIAL FORM,bAIN WITH JEEM WITH MEEM INITIAL FORM,
     bSAD WITH MEEM WITH MEEM INITIAL FORM,bSEEN WITH KHAH WITH YEH FINAL FORM,
     bNOON WITH JEEM WITH YEH FINAL FORM,,,,,,,,bSALAAMUHU ALAYNAA"),
   (0xfdf0, "ARABIC LIGATURE SALLA USED AS KORANIC STOP SIGN ISOLATED FORM,
     bQALA USED AS KORANIC STOP SIGN ISOLATED FORM,bALLAH ISOLATED FORM,bAKBAR ISOLATED FORM,
     bMOHAMMAD ISOLATED FORM,bSALAM ISOLATED FORM,bRASOUL ISOLATED FORM,bALAYHE ISOLATED FORM,
     bWASALLAM ISOLATED FORM,bSALLA ISOLATED FORM,bSALLALLAHOU ALAYHE WASALLAM,bJALLAJALALOUHOU,
     RIAL SIGN,ARABIC LIGATURE BISMILLAH AR-RAHMAN AR-RAHEEM,bSUBHAANAHU WA TAAALAA,bAZZA WA JALL,
     VARIATION SELECTOR-1,aSELECTOR-2,aSELECTOR-3,aSELECTOR-4,aSELECTOR-5,aSELECTOR-6,aSELECTOR-7,
     aSELECTOR-8,aSELECTOR-9,aSELECTOR-10,aSELECTOR-11,aSELECTOR-12,aSELECTOR-13,aSELECTOR-14,
     aSELECTOR-15,aSELECTOR-16,PRESENTATION FORM FOR VERTICAL COMMA,dIDEOGRAPHIC COMMA,eFULL STOP,
     dCOLON,dSEMICOLON,dEXCLAMATION MARK,dQUESTION MARK,dLEFT WHITE LENTICULAR BRACKET,
     dRIGHT WHITE LENTICULAR BRAKCET,dHORIZONTAL ELLIPSIS,,,,,,,COMBINING LIGATURE LEFT HALF,
     bRIGHT HALF,aDOUBLE TILDE LEFT HALF,cRIGHT HALF,aMACRON LEFT HALF,bRIGHT HALF,
     aCONJOINING MACRON,aLIGATURE LEFT HALF BELOW,bRIGHT HALF BELOW,aTILDE LEFT HALF BELOW,
     bRIGHT HALF BELOW,aMACRON LEFT HALF BELOW,bRIGHT HALF BELOW,aCONJOINING MACRON BELOW,
     aCYRILLIC TITLO LEFT HALF,cRIGHT HALF,PRESENTATION FORM FOR VERTICAL TWO DOT LEADER,dEM DASH,
     dEN DASH,dLOW LINE,dWAVY LOW LINE,dLEFT PARENTHESIS,dRIGHT PARENTHESIS,dLEFT CURLY BRACKET,
     dRIGHT CURLY BRACKET,dLEFT TORTOISE SHELL BRACKET,dRIGHT TORTOISE SHELL BRACKET,
     dLEFT BLACK LENTICULAR BRACKET,dRIGHT BLACK LENTICULAR BRACKET,dLEFT DOUBLE ANGLE BRACKET,
     dRIGHT DOUBLE ANGLE BRACKET,dLEFT ANGLE BRACKET,dRIGHT ANGLE BRACKET,dLEFT CORNER BRACKET,
     dRIGHT CORNER BRACKET,dLEFT WHITE CORNER BRACKET,dRIGHT WHITE CORNER BRACKET,SESAME DOT,
     WHITE SESAME DOT,PRESENTATION FORM FOR VERTICAL LEFT SQUARE BRACKET,dRIGHT SQUARE BRACKET,
     DASHED OVERLINE,CENTRELINE OVERLINE,WAVY OVERLINE,DOUBLE WAVY OVERLINE,DASHED LOW LINE,
     CENTRELINE LOW LINE,WAVY LOW LINE,SMALL COMMA,aIDEOGRAPHIC COMMA,aFULL STOP,,aSEMICOLON,aCOLON,
     aQUESTION MARK,aEXCLAMATION MARK,aEM DASH,aLEFT PARENTHESIS,aRIGHT PARENTHESIS,
     aLEFT CURLY BRACKET,aRIGHT CURLY BRACKET,aLEFT TORTOISE SHELL BRACKET,
     aRIGHT TORTOISE SHELL BRACKET,aNUMBER SIGN,aAMPERSAND,aASTERISK,aPLUS SIGN,aHYPHEN-MINUS,
     aLESS-THAN SIGN,aGREATER-THAN SIGN,aEQUALS SIGN,,aREVERSE SOLIDUS,aDOLLAR SIGN,aPERCENT SIGN,
     aCOMMERCIAL AT,,,,,ARABIC FATHATAN ISOLATED FORM,aTATWEEL WITH FATHATAN ABOVE,
     aDAMMATAN ISOLATED FORM,aTAIL FRAGMENT,aKASRATAN ISOLATED FORM,,aFATHA ISOLATED FORM,
     bMEDIAL FORM,aDAMMA ISOLATED FORM,bMEDIAL FORM,aKASRA ISOLATED FORM,bMEDIAL FORM,
     aSHADDA ISOLATED FORM,bMEDIAL FORM,aSUKUN ISOLATED FORM,bMEDIAL FORM,
     aLETTER HAMZA ISOLATED FORM,bALEF WITH MADDA ABOVE ISOLATED FORM,fFINAL FORM,
     dHAMZA ABOVE ISOLATED FORM,fFINAL FORM,bWAW WITH HAMZA ABOVE ISOLATED FORM,fFINAL FORM,
     bALEF WITH HAMZA BELOW ISOLATED FORM,fFINAL FORM,bYEH WITH HAMZA ABOVE ISOLATED FORM,
     fFINAL FORM,fINITIAL FORM,fMEDIAL FORM,bALEF ISOLATED FORM,cFINAL FORM,bBEH ISOLATED FORM,
     cFINAL FORM,cINITIAL FORM,cMEDIAL FORM,bTEH MARBUTA ISOLATED FORM,dFINAL FORM,cISOLATED FORM,
     cFINAL FORM,cINITIAL FORM,cMEDIAL FORM,bTHEH ISOLATED FORM,cFINAL FORM,cINITIAL FORM,
     cMEDIAL FORM,bJEEM ISOLATED FORM,cFINAL FORM,cINITIAL FORM,cMEDIAL FORM,bHAH ISOLATED FORM,
     cFINAL FORM,cINITIAL FORM,cMEDIAL FORM,bKHAH ISOLATED FORM,cFINAL FORM,cINITIAL FORM,
     cMEDIAL FORM,bDAL ISOLATED FORM,cFINAL FORM,bTHAL ISOLATED FORM,cFINAL FORM,bREH ISOLATED FORM,
     cFINAL FORM,bZAIN ISOLATED FORM,cFINAL FORM,bSEEN ISOLATED FORM,cFINAL FORM,cINITIAL FORM,
     cMEDIAL FORM,bSHEEN ISOLATED FORM,cFINAL FORM,cINITIAL FORM,cMEDIAL FORM,bSAD ISOLATED FORM,
     cFINAL FORM,cINITIAL FORM,cMEDIAL FORM,bDAD ISOLATED FORM,cFINAL FORM,cINITIAL FORM,
     cMEDIAL FORM,bTAH ISOLATED FORM,cFINAL FORM,cINITIAL FORM,cMEDIAL FORM,bZAH ISOLATED FORM,
     cFINAL FORM,cINITIAL FORM,cMEDIAL FORM,bAIN ISOLATED FORM,cFINAL FORM,cINITIAL FORM,
     cMEDIAL FORM,bGHAIN ISOLATED FORM,cFINAL FORM,cINITIAL FORM,cMEDIAL FORM,bFEH ISOLATED FORM,
     cFINAL FORM,cINITIAL FORM,cMEDIAL FORM,bQAF ISOLATED FORM,cFINAL FORM,cINITIAL FORM,
     cMEDIAL FORM,bKAF ISOLATED FORM,cFINAL FORM,cINITIAL FORM,cMEDIAL FORM,bLAM ISOLATED FORM,
     cFINAL FORM,cINITIAL FORM,cMEDIAL FORM,bMEEM ISOLATED FORM,cFINAL FORM,cINITIAL FORM,
     cMEDIAL FORM,bNOON ISOLATED FORM,cFINAL FORM,cINITIAL FORM,cMEDIAL FORM,bHEH ISOLATED FORM,
     cFINAL FORM,cINITIAL FORM,cMEDIAL FORM,bWAW ISOLATED FORM,cFINAL FORM,
     bALEF MAKSURA ISOLATED FORM,dFINAL FORM,bYEH ISOLATED FORM,cFINAL FORM,cINITIAL FORM,
     cMEDIAL FORM,aLIGATURE LAM WITH ALEF WITH MADDA ABOVE ISOLATED FORM,hFINAL FORM,
     fHAMZA ABOVE ISOLATED FORM,hFINAL FORM,gBELOW ISOLATED FORM,hFINAL FORM,eISOLATED FORM,
     eFINAL FORM,,,ZERO WIDTH NO-BREAK SPACE,,FULLWIDTH EXCLAMATION MARK,aQUOTATION MARK,
     aNUMBER SIGN,aDOLLAR SIGN,aPERCENT SIGN,aAMPERSAND,aAPOSTROPHE,aLEFT PARENTHESIS,
     aRIGHT PARENTHESIS,aASTERISK,aPLUS SIGN,aCOMMA,aHYPHEN-MINUS,aFULL STOP,aSOLIDUS,aDIGIT ZERO,
     bONE,bTWO,bTHREE,bFOUR,bFIVE,bSIX,bSEVEN,bEIGHT,bNINE,aCOLON,aSEMICOLON,aLESS-THAN SIGN,
     aEQUALS SIGN,aGREATER-THAN SIGN,aQUESTION MARK,aCOMMERCIAL AT,aLATIN CAPITAL LETTER A,dB,dC,dD,
     dE,dF,dG,dH,dI,dJ,dK,dL,dM,dN,dO,dP,dQ,dR,dS,dT,dU,dV,dW,dX,dY,dZ,aLEFT SQUARE BRACKET,
     aREVERSE SOLIDUS,aRIGHT SQUARE BRACKET,aCIRCUMFLEX ACCENT,aLOW LINE,aGRAVE ACCENT,
     aLATIN SMALL LETTER A,dB,dC,dD,dE,dF,dG,dH,dI,dJ,dK,dL,dM,dN,dO,dP,dQ,dR,dS,dT,dU,dV,dW,dX,dY,
     dZ,aLEFT CURLY BRACKET,aVERTICAL LINE,aRIGHT CURLY BRACKET,aTILDE,aLEFT WHITE PARENTHESIS,
     aRIGHT WHITE PARENTHESIS,HALFWIDTH IDEOGRAPHIC FULL STOP,aLEFT CORNER BRACKET,
     aRIGHT CORNER BRACKET,aIDEOGRAPHIC COMMA,aKATAKANA MIDDLE DOT,bLETTER WO,cSMALL A,dI,dU,dE,dO,
     dYA,dYU,dYO,dTU,aKATAKANA-HIRAGANA PROLONGED SOUND MARK,aKATAKANA LETTER A,cI,cU,cE,cO,cKA,cKI,
     cKU,cKE,cKO,cSA,cSI,cSU,cSE,cSO,cTA,cTI,cTU,cTE,cTO,cNA,cNI,cNU,cNE,cNO,cHA,cHI,cHU,cHE,cHO,
     cMA,cMI,cMU,cME,cMO,cYA,cYU,cYO,cRA,cRI,cRU,cRE,cRO,cWA,cN,bVOICED SOUND MARK,
     bSEMI-VOICED SOUND MARK,aHANGUL FILLER,bLETTER KIYEOK,cSSANGKIYEOK,cKIYEOK-SIOS,cNIEUN,
     cNIEUN-CIEUC,cNIEUN-HIEUH,cTIKEUT,cSSANGTIKEUT,cRIEUL,cRIEUL-KIYEOK,cRIEUL-MIEUM,cRIEUL-PIEUP,
     cRIEUL-SIOS,cRIEUL-THIEUTH,cRIEUL-PHIEUPH,cRIEUL-HIEUH,cMIEUM,cPIEUP,cSSANGPIEUP,cPIEUP-SIOS,
     cSIOS,cSSANGSIOS,cIEUNG,cCIEUC,cSSANGCIEUC,cCHIEUCH,cKHIEUKH,cTHIEUTH,cPHIEUPH,cHIEUH,,,,cA,
     cAE,cYA,cYAE,cEO,cE,,,cYEO,cYE,cO,cWA,cWAE,cOE,,,cYO,cU,cWEO,cWE,cWI,cYU,,,cEU,cYI,cI,,,,
     FULLWIDTH CENT SIGN,aPOUND SIGN,aNOT SIGN,aMACRON,aBROKEN BAR,aYEN SIGN,aWON SIGN,,
     HALFWIDTH FORMS LIGHT VERTICAL,aLEFTWARDS ARROW,aUPWARDS ARROW,aRIGHTWARDS ARROW,
     aDOWNWARDS ARROW,aBLACK SQUARE,aWHITE CIRCLE"),
   (0xfff9, "INTERLINEAR ANNOTATION ANCHOR,bSEPARATOR,bTERMINATOR,OBJECT REPLACEMENT CHARACTER,
     REPLACEMENT CHARACTER,,,LINEAR B SYLLABLE B008 A,cB038 E,cB028 I,cB061 O,cB010 U,cB001 DA,
     cB045 DE,cB007 DI,cB014 DO,cB051 DU,cB057 JA,cB046 JE,,cB036 JO,cB065 JU,cB077 KA,cB044 KE,
     cB067 KI,cB070 KO,cB081 KU,cB080 MA,cB013 ME,cB073 MI,cB015 MO,cB023 MU,cB006 NA,cB024 NE,
     cB030 NI,cB052 NO,cB055 NU,cB003 PA,cB072 PE,cB039 PI,cB011 PO,cB050 PU,cB016 QA,cB078 QE,
     cB021 QI,cB032 QO,,cB060 RA,cB027 RE,cB053 RI,cB002 RO,cB026 RU,cB031 SA,cB009 SE,cB041 SI,
     cB012 SO,cB058 SU,cB059 TA,cB004 TE,cB037 TI,cB005 TO,cB069 TU,cB054 WA,cB075 WE,cB040 WI,
     cB042 WO,,cB017 ZA,cB074 ZE,,cB020 ZO,cB025 A2,cB043 A3,cB085 AU,cB071 DWE,cB090 DWO,cB048 NWA,
     cB029 PU2,cB062 PTE,cB076 RA2,cB033 RA3,cB068 RO2,cB066 TA2,cB087 TWE,cB091 TWO,,,bSYMBOL B018,
     cB019,cB022,cB034,cB047,cB049,cB056,cB063,cB064,cB079,cB082,cB083,cB086,cB089"),
   (0x10080, "LINEAR B IDEOGRAM B100 MAN,cB102 WOMAN,cB104 DEER,cB105 EQUID,cB105F MARE,
     cB105M STALLION,cB106F EWE,cB106M RAM,cB107F SHE-GOAT,cB107M HE-GOAT,cB108F SOW,cB108M BOAR,
     cB109F COW,cB109M BULL,cB120 WHEAT,cB121 BARLEY,cB122 OLIVE,cB123 SPICE,cB125 CYPERUS,
     bMONOGRAM B127 KAPO,cB128 KANAKO,bIDEOGRAM B130 OIL,cB131 WINE,cB132,bMONOGRAM B133 AREPA,
     cB135 MERI,bIDEOGRAM B140 BRONZE,cB141 GOLD,cB142,cB145 WOOL,cB146,cB150,cB151 HORN,cB152,
     cB153,cB154,bMONOGRAM B156 TURO2,bIDEOGRAM B157,cB158,cB159 CLOTH,cB160,cB161,cB162 GARMENT,
     cB163 ARMOUR,cB164,cB165,cB166,cB167,cB168,cB169,cB170,cB171,cB172,cB173 MONTH,cB174,
     cB176 TREE,cB177,cB178,cB179,cB180,cB181,cB182,cB183,cB184,cB185,cB189,cB190,cB191 HELMET,
     cB220 FOOTSTOOL,cB225 BATHTUB,cB230 SPEAR,cB231 ARROW,cB232,cB233 SWORD,cB234,cB236,
     cB240 WHEELED CHARIOT,cB241 CHARIOT,cB242 CHARIOT FRAME,cB243 WHEEL,cB245,cB246,
     bMONOGRAM B247 DIPTE,bIDEOGRAM B248,cB249,cB251,cB252,cB253,cB254 DART,cB255,cB256,cB257,cB258,
     cB259,cVESSEL B155,dB200,dB201,dB202,dB203,dB204,dB205,dB206,dB207,dB208,dB209,dB210,dB211,
     dB212,dB213,dB214,dB215,dB216,dB217,dB218,dB219,dB221,dB222,dB226,dB227,dB228,dB229,dB250,
     dB305,,,,,,AEGEAN WORD SEPARATOR LINE,cDOT,aCHECK MARK,,,,,aNUMBER ONE,bTWO,bTHREE,bFOUR,bFIVE,
     bSIX,bSEVEN,bEIGHT,bNINE,bTEN,bTWENTY,bTHIRTY,bFORTY,bFIFTY,bSIXTY,bSEVENTY,bEIGHTY,bNINETY,
     bONE HUNDRED,bTWO HUNDRED,bTHREE HUNDRED,bFOUR HUNDRED,bFIVE HUNDRED,bSIX HUNDRED,
     bSEVEN HUNDRED,bEIGHT HUNDRED,bNINE HUNDRED,bONE THOUSAND,bTWO THOUSAND,bTHREE THOUSAND,
     bFOUR THOUSAND,bFIVE THOUSAND,bSIX THOUSAND,bSEVEN THOUSAND,bEIGHT THOUSAND,bNINE THOUSAND,
     bTEN THOUSAND,bTWENTY THOUSAND,bTHIRTY THOUSAND,bFORTY THOUSAND,bFIFTY THOUSAND,
     bSIXTY THOUSAND,bSEVENTY THOUSAND,bEIGHTY THOUSAND,bNINETY THOUSAND,,,,aWEIGHT BASE UNIT,
     bFIRST SUBUNIT,bSECOND SUBUNIT,bTHIRD SUBUNIT,bFOURTH SUBUNIT,aDRY MEASURE FIRST SUBUNIT,
     aLIQUID MEASURE FIRST SUBUNIT,aMEASURE SECOND SUBUNIT,bTHIRD SUBUNIT,
     GREEK ACROPHONIC ATTIC ONE QUARTER,dHALF,dDRACHMA,cFIVE,cFIFTY,cFIVE HUNDRED,dTHOUSAND,
     cFIFTY THOUSAND,cFIVE TALENTS,cTEN TALENTS,cFIFTY TALENTS,cONE HUNDRED TALENTS,
     cFIVE HUNDRED TALENTS,cONE THOUSAND TALENTS,cFIVE THOUSAND TALENTS,dSTATERS,cTEN STATERS,
     cFIFTY STATERS,cONE HUNDRED STATERS,cFIVE HUNDRED STATERS,cONE THOUSAND STATERS,
     cTEN THOUSAND STATERS,cFIFTY THOUSAND STATERS,cTEN MNAS,bHERAEUM ONE PLETHRON,bTHESPIAN ONE,
     bHERMIONIAN ONE,bEPIDAUREAN TWO,bTHESPIAN TWO,bCYRENAIC TWO DRACHMAS,bEPIDAUREAN TWO DRACHMAS,
     bTROEZENIAN FIVE,cTEN,dALTERNATE FORM,bHERMIONIAN TEN,bMESSENIAN TEN,bTHESPIAN TEN,cTHIRTY,
     bTROEZENIAN FIFTY,dALTERNATE FORM,bHERMIONIAN FIFTY,bTHESPIAN FIFTY,cONE HUNDRED,
     cTHREE HUNDRED,bEPIDAUREAN FIVE HUNDRED,bTROEZENIAN FIVE HUNDRED,bTHESPIAN FIVE HUNDRED,
     bCARYSTIAN FIVE HUNDRED,bNAXIAN FIVE HUNDRED,bTHESPIAN ONE THOUSAND,cFIVE THOUSAND,
     bDELPHIC FIVE MNAS,bSTRATIAN FIFTY MNAS,aONE HALF SIGN,dALTERNATE FORM,aTWO THIRDS SIGN,
     aTHREE QUARTERS SIGN,aYEAR SIGN,aTALENT SIGN,aDRACHMA SIGN,aOBOL SIGN,aTWO OBOLS SIGN,
     aTHREE OBOLS SIGN,aFOUR OBOLS SIGN,aFIVE OBOLS SIGN,aMETRETES SIGN,aKYATHOS BASE SIGN,
     aLITRA SIGN,aOUNKIA SIGN,aXESTES SIGN,aARTABE SIGN,aAROURA SIGN,aGRAMMA SIGN,
     aTRYBLION BASE SIGN,aZERO SIGN,aONE QUARTER SIGN,aSINUSOID SIGN,aINDICTION SIGN,NOMISMA SIGN,,
     ROMAN SEXTANS SIGN,aUNCIA SIGN,aSEMUNCIA SIGN,aSEXTULA SIGN,aDIMIDIA SEXTULA SIGN,
     aSILIQUA SIGN,aDENARIUS SIGN,aQUINARIUS SIGN,aSESTERTIUS SIGN,aDUPONDIUS SIGN,aAS SIGN,
     aCENTURIAL SIGN,ASCIA SYMBOL,,,,GREEK SYMBOL TAU RHO"),
   (0x101d0, "PHAISTOS DISC SIGN PEDESTRIAN,cPLUMED HEAD,cTATTOOED HEAD,cCAPTIVE,cCHILD,cWOMAN,
     cHELMET,cGAUNTLET,cTIARA,cARROW,cBOW,cSHIELD,cCLUB,cMANACLES,cMATTOCK,cSAW,cLID,cBOOMERANG,
     cCARPENTRY PLANE,cDOLIUM,cCOMB,cSLING,cCOLUMN,cBEEHIVE,cSHIP,cHORN,cHIDE,cBULLS LEG,cCAT,cRAM,
     cEAGLE,cDOVE,cTUNNY,cBEE,cPLANE TREE,cVINE,cPAPYRUS,cROSETTE,cLILY,cOX BACK,cFLUTE,cGRATER,
     cSTRAINER,cSMALL AXE,cWAVY BAND,cCOMBINING OBLIQUE STROKE"),
   (0x10280, "LYCIAN LETTER A,bE,bB,bBH,bG,bD,bI,bW,bZ,bTH,bJ,bK,bQ,bL,bM,bN,bMM,bNN,bU,bP,bKK,bR,
     bS,bT,bTT,bAN,bEN,bH,bX,,,,CARIAN LETTER A,bP2,bD,bL,bUUU,bR,bLD,bA2,bQ,bB,bM,bO,bD2,bT,bSH,
     bSH2,bS,bC-18,bU,bNN,bX,bN,bTT2,bP,bSS,bI,bE,bUUUU,bK,bK2,bND,bUU,bG,bG2,bST,bST2,bNG,bII,
     bC-39,bTT,bUUU2,bRR,bMB,bMB2,bMB3,bMB4,bLD2,bE2,bUUU3"),
   (0x102e0, "COPTIC EPACT THOUSANDS MARK,bDIGIT ONE,cTWO,cTHREE,cFOUR,cFIVE,cSIX,cSEVEN,cEIGHT,
     cNINE,bNUMBER TEN,cTWENTY,cTHIRTY,cFORTY,cFIFTY,cSIXTY,cSEVENTY,cEIGHTY,cNINETY,cONE HUNDRED,
     cTWO HUNDRED,cTHREE HUNDRED,cFOUR HUNDRED,cFIVE HUNDRED,cSIX HUNDRED,cSEVEN HUNDRED,
     cEIGHT HUNDRED,cNINE HUNDRED,,,,,OLD ITALIC LETTER A,cBE,cKE,cDE,cE,cVE,cZE,cHE,cTHE,cI,cKA,
     cEL,cEM,cEN,cESH,cO,cPE,cSHE,cKU,cER,cES,cTE,cU,cEKS,cPHE,cKHE,cEF,cERS,cCHE,cII,cUU,cESS,
     bNUMERAL ONE,cFIVE,cTEN,cFIFTY"),
   (0x1032d, "OLD ITALIC LETTER YE,cNORTHERN TSE,cSOUTHERN TSE,GOTHIC LETTER AHSA,bBAIRKAN,bGIBA,
     bDAGS,bAIHVUS,bQAIRTHRA,bIUJA,bHAGL,bTHIUTH,bEIS,bKUSMA,bLAGUS,bMANNA,bNAUTHS,bJER,bURUS,
     bPAIRTHRA,bNINETY,bRAIDA,bSAUIL,bTEIWS,bWINJA,bFAIHU,bIGGWS,bHWAIR,bOTHAL,bNINE HUNDRED,,,,,,
     OLD PERMIC LETTER AN,cBUR,cGAI,cDOI,cE,cZHOI,cDZHOI,cZATA,cDZITA,cI,cKOKE,cLEI,cMENOE,cNENOE,
     cVOOI,cPEEI,cREI,cSII,cTAI,cU,cCHERY,cSHOOI,cSHCHOOI,cYRY,cYERU,cO,cOO,cEF,cHA,cTSIU,cVER,cYER,
     cYERI,cYAT,cIE,cYU,cYA,cIA,COMBINING OLD PERMIC LETTER AN,dDOI,dZATA,dNENOE,dSII,,,,,,
     UGARITIC LETTER ALPA,bBETA,bGAMLA,bKHA,bDELTA,bHO,bWO,bZETA,bHOTA,bTET,bYOD,bKAF,bSHIN,bLAMDA,
     bMEM,bDHAL,bNUN,bZU,bSAMKA,bAIN,bPU,bSADE,bQOPA,bRASHA,bTHANNA,bGHAIN,bTO,bI,bU,bSSU,,
     aWORD DIVIDER,OLD PERSIAN SIGN A,cI,cU,cKA,cKU,cGA,cGU,cXA,cCA,cJA,cJI,cTA,cTU,cDA,cDI,cDU,
     cTHA,cPA,cBA,cFA,cNA,cNU,cMA,cMI,cMU,cYA,cVA,cVI,cRA,cRU,cLA,cSA,cZA,cSHA,cSSA,cHA,,,,,
     cAURAMAZDAA,cAURAMAZDAA-2,cAURAMAZDAAHA,cXSHAAYATHIYA,cDAHYAAUSH,cDAHYAAUSH-2,cBAGA,cBUUMISH,
     bWORD DIVIDER,bNUMBER ONE,cTWO,cTEN,cTWENTY,cHUNDRED"),
   (0x10400, "DESERET CAPITAL LETTER LONG I,dE,dA,dAH,dO,dOO,cSHORT I,dE,dA,dAH,dO,dOO,cAY,cOW,cWU,
     cYEE,cH,cPEE,cBEE,cTEE,cDEE,cCHEE,cJEE,cKAY,cGAY,cEF,cVEE,cETH,cTHEE,cES,cZEE,cESH,cZHEE,cER,
     cEL,cEM,cEN,cENG,cOI,cEW,aSMALL LETTER LONG I,dE,dA,dAH,dO,dOO,cSHORT I,dE,dA,dAH,dO,dOO,cAY,
     cOW,cWU,cYEE,cH,cPEE,cBEE,cTEE,cDEE,cCHEE,cJEE,cKAY,cGAY,cEF,cVEE,cETH,cTHEE,cES,cZEE,cESH,
     cZHEE,cER,cEL,cEM,cEN,cENG,cOI,cEW,SHAVIAN LETTER PEEP,bTOT,bKICK,bFEE,bTHIGH,bSO,bSURE,
     bCHURCH,bYEA,bHUNG,bBIB,bDEAD,bGAG,bVOW,bTHEY,bZOO,bMEASURE,bJUDGE,bWOE,bHA-HA,bLOLL,bMIME,bIF,
     bEGG,bASH,bADO,bON,bWOOL,bOUT,bAH,bROAR,bNUN,bEAT,bAGE,bICE,bUP,bOAK,bOOZE,bOIL,bAWE,bARE,bOR,
     bAIR,bERR,bARRAY,bEAR,bIAN,bYEW,OSMANYA LETTER ALEF,bBA,bTA,bJA,bXA,bKHA,bDEEL,bRA,bSA,bSHIIN,
     bDHA,bCAYN,bGA,bFA,bQAAF,bKAAF,bLAAN,bMIIN,bNUUN,bWAW,bHA,bYA,bA,bE,bI,bO,bU,bAA,bEE,bOO,,,
     aDIGIT ZERO,bONE,bTWO,bTHREE,bFOUR,bFIVE,bSIX,bSEVEN,bEIGHT,bNINE,,,,,,,OSAGE CAPITAL LETTER A,
     cAI,cAIN,cAH,cBRA,cCHA,cEHCHA,cE,cEIN,cHA,cHYA,cI,cKA,cEHKA,cKYA,cLA,cMA,cNA,cO,cOIN,cPA,cEHPA,
     cSA,cSHA,cTA,cEHTA,cTSA,cEHTSA,cTSHA,cDHA,cU,cWA,cKHA,cGHA,cZA,cZHA,,,,,aSMALL LETTER A,cAI,
     cAIN,cAH,cBRA,cCHA,cEHCHA,cE,cEIN,cHA,cHYA,cI,cKA,cEHKA,cKYA,cLA,cMA,cNA,cO,cOIN,cPA,cEHPA,cSA,
     cSHA,cTA,cEHTA,cTSA,cEHTSA,cTSHA,cDHA,cU,cWA,cKHA,cGHA,cZA,cZHA,,,,,ELBASAN LETTER A,bBE,bCE,
     bCHE,bDE,bNDE,bDHE,bEI,bE,bFE,bGE,bGJE,bHE,bI,bJE,bKE,bLE,bLLE,bME,bNE,bNA,bNJE,bO,bPE,bQE,bRE,
     bRRE,bSE,bSHE,bTE,bTHE,bU,bVE,bXE,bY,bZE,bZHE,bGHE,bGHAMMA,bKHE,,,,,,,,,
     CAUCASIAN ALBANIAN LETTER ALT,cBET,cGIM,cDAT,cEB,cZARL,cEYN,cZHIL,cTAS,cCHA,cYOWD,cZHA,cIRB,
     cSHA,cLAN,cINYA,cXEYN,cDYAN,cCAR,cJHOX,cKAR,cLYIT,cHEYT,cQAY,cAOR,cCHOY,cCHI,cCYAY,cMAQ,cQAR,
     cNOWC,cDZYAY,cSHAK,cJAYN,cON,cTYAY,cFAM,cDZAY,cCHAT,cPEN,cGHEYS,cRAT,cSEYK,cVEYZ,cTIWR,cSHOY,
     cIWN,cCYAW,cCAYN,cYAYD,cPIWR,cKIW"),
   (0x1056f, "CAUCASIAN ALBANIAN CITATION MARK,VITHKUQI CAPITAL LETTER A,cBBE,cBE,cCE,cCHE,cDE,cDHE,
     cEI,cE,cFE,cGA,,cHA,cHHA,cI,cIJE,cJE,cKA,cLA,cLLA,cME,cNE,cNJE,cO,cPE,cQA,cRE,,cSE,cSHE,cTE,
     cTHE,cU,cVE,cXE,,cY,cZE,,aSMALL LETTER A,cBBE,cBE,cCE,cCHE,cDE,cDHE,cEI,cE,cFE,cGA,,cHA,cHHA,
     cI,cIJE,cJE,cKA,cLA,cLLA,cME,cNE,cNJE,cO,cPE,cQA,cRE,,cSE,cSHE,cTE,cTHE,cU,cVE,cXE,,cY,cZE"),
   (0x10600, "LINEAR A SIGN AB001,cAB002,cAB003,cAB004,cAB005,cAB006,cAB007,cAB008,cAB009,cAB010,
     cAB011,cAB013,cAB016,cAB017,cAB020,cAB021,cAB021F,cAB021M,cAB022,cAB022F,cAB022M,cAB023,
     cAB023M,cAB024,cAB026,cAB027,cAB028,cA028B,cAB029,cAB030,cAB031,cAB034,cAB037,cAB038,cAB039,
     cAB040,cAB041,cAB044,cAB045,cAB046,cAB047,cAB048,cAB049,cAB050,cAB051,cAB053,cAB054,cAB055,
     cAB056,cAB057,cAB058,cAB059,cAB060,cAB061,cAB065,cAB066,cAB067,cAB069,cAB070,cAB073,cAB074,
     cAB076,cAB077,cAB078,cAB079,cAB080,cAB081,cAB082,cAB085,cAB086,cAB087,cA100-102,cAB118,cAB120,
     cA120B,cAB122,cAB123,cAB131A,cAB131B,cA131C,cAB164,cAB171,cAB180,cAB188,cAB191,cA301,cA302,
     cA303,cA304,cA305,cA306,cA307,cA308,cA309A,cA309B,cA309C,cA310,cA311,cA312,cA313A,cA313B,
     cA313C,cA314,cA315,cA316,cA317,cA318,cA319,cA320,cA321,cA322,cA323,cA324,cA325,cA326,cA327,
     cA328,cA329,cA330,cA331,cA332,cA333,cA334,cA335,cA336,cA337,cA338,cA339,cA340,cA341,cA342,
     cA343,cA344,cA345,cA346,cA347,cA348,cA349,cA350,cA351,cA352,cA353,cA354,cA355,cA356,cA357,
     cA358,cA359,cA360,cA361,cA362,cA363,cA364,cA365,cA366,cA367,cA368,cA369,cA370,cA371,cA400-VAS,
     cA401-VAS,cA402-VAS,cA403-VAS,cA404-VAS,cA405-VAS,cA406-VAS,cA407-VAS,cA408-VAS,cA409-VAS,
     cA410-VAS,cA411-VAS,cA412-VAS,cA413-VAS,cA414-VAS,cA415-VAS,cA416-VAS,cA417-VAS,cA418-VAS,
     cA501,cA502,cA503,cA504,cA505,cA506,cA508,cA509,cA510,cA511,cA512,cA513,cA515,cA516,cA520,
     cA521,cA523,cA524,cA525,cA526,cA527,cA528,cA529,cA530,cA531,cA532,cA534,cA535,cA536,cA537,
     cA538,cA539,cA540,cA541,cA542,cA545,cA547,cA548,cA549,cA550,cA551,cA552,cA553,cA554,cA555,
     cA556,cA557,cA559,cA563,cA564,cA565,cA566,cA568,cA569,cA570,cA571,cA572,cA573,cA574,cA575,
     cA576,cA577,cA578,cA579,cA580,cA581,cA582,cA583,cA584,cA585,cA586,cA587,cA588,cA589,cA591,
     cA592,cA594,cA595,cA596,cA598,cA600,cA601,cA602,cA603,cA604,cA606,cA608,cA609,cA610,cA611,
     cA612,cA613,cA614,cA615,cA616,cA617,cA618,cA619,cA620,cA621,cA622,cA623,cA624,cA626,cA627,
     cA628,cA629,cA634,cA637,cA638,cA640,cA642,cA643,cA644,cA645,cA646,cA648,cA649,cA651,cA652,
     cA653,cA654,cA655,cA656,cA657,cA658,cA659,cA660,cA661,cA662,cA663,cA664"),
   (0x10740, "LINEAR A SIGN A701 A,cA702 B,cA703 D,cA704 E,cA705 F,cA706 H,cA707 J,cA708 K,cA709 L,
     cA709-2 L2,cA709-3 L3,cA709-4 L4,cA709-6 L6,cA710 W,cA711 X,cA712 Y,cA713 OMEGA,cA714 ABB,
     cA715 BB,cA717 DD,cA726 EYYY,cA732 JE"),
   (0x10760, "LINEAR A SIGN A800,cA801,cA802,cA803,cA804,cA805,cA806,cA807"),
   (0x10780, "MODIFIER LETTER SMALL CAPITAL AA,bSUPERSCRIPT TRIANGULAR COLON,cHALF TRIANGULAR COLON,
     bSMALL AE,cCAPITAL B,cB WITH HOOK,,cDZ DIGRAPH,eWITH RETROFLEX HOOK,fCURL,cDEZH DIGRAPH,
     cD WITH TAIL,eHOOK,fAND TAIL,cREVERSED E,cCLOSED REVERSED OPEN E,cFENG DIGRAPH,cRAMS HORN,
     cCAPITAL G,cG WITH HOOK,cCAPITAL G WITH HOOK,cH WITH STROKE,cCAPITAL H,cHENG WITH HOOK,
     cDOTLESS J WITH STROKE AND HOOK,cLS DIGRAPH,cLZ DIGRAPH,cL WITH BELT,cCAPITAL L WITH BELT,
     cL WITH RETROFLEX HOOK AND BELT,cLEZH,dWITH RETROFLEX HOOK,cTURNED Y,eWITH BELT,cO WITH STROKE,
     cCAPITAL OE,cCLOSED OMEGA,cQ,cTURNED R WITH LONG LEG,hAND RETROFLEX HOOK,cR WITH TAIL,
     eFISHHOOK,cCAPITAL R,cTC DIGRAPH WITH CURL,cTS DIGRAPH,eWITH RETROFLEX HOOK,cTESH DIGRAPH,
     cT WITH RETROFLEX HOOK,cV WITH RIGHT HOOK,,cCAPITAL Y,bGLOTTAL STOP WITH STROKE,
     bREVERSED GLOTTAL STOP WITH STROKE,bBILABIAL CLICK,bDENTAL CLICK,bLATERAL CLICK,
     bALVEOLAR CLICK,bRETROFLEX CLICK WITH RETROFLEX HOOK,bSMALL S WITH CURL"),
   (0x10800, "CYPRIOT SYLLABLE A,bE,bI,bO,bU,bJA,,,bJO,,bKA,bKE,bKI,bKO,bKU,bLA,bLE,bLI,bLO,bLU,bMA,
     bME,bMI,bMO,bMU,bNA,bNE,bNI,bNO,bNU,bPA,bPE,bPI,bPO,bPU,bRA,bRE,bRI,bRO,bRU,bSA,bSE,bSI,bSO,
     bSU,bTA,bTE,bTI,bTO,bTU,bWA,bWE,bWI,bWO,,bXA,bXE,,,,bZA,,,bZO,IMPERIAL ARAMAIC LETTER ALEPH,
     cBETH,cGIMEL,cDALETH,cHE,cWAW,cZAYIN,cHETH,cTETH,cYODH,cKAPH,cLAMEDH,cMEM,cNUN,cSAMEKH,cAYIN,
     cPE,cSADHE,cQOPH,cRESH,cSHIN,cTAW,,bSECTION SIGN,bNUMBER ONE,cTWO,cTHREE,cTEN,cTWENTY,
     cONE HUNDRED,dTHOUSAND,cTEN THOUSAND,PALMYRENE LETTER ALEPH,bBETH,bGIMEL,bDALETH,bHE,bWAW,
     bZAYIN,bHETH,bTETH,bYODH,bKAPH,bLAMEDH,bMEM,bFINAL NUN,bNUN,bSAMEKH,bAYIN,bPE,bSADHE,bQOPH,
     bRESH,bSHIN,bTAW,aLEFT-POINTING FLEURON,aRIGHT-POINTING FLEURON,aNUMBER ONE,bTWO,bTHREE,bFOUR,
     bFIVE,bTEN,bTWENTY,NABATAEAN LETTER FINAL ALEPH,bALEPH,bFINAL BETH,bBETH,bGIMEL,bDALETH,
     bFINAL HE,bHE,bWAW,bZAYIN,bHETH,bTETH,bFINAL YODH,bYODH,bFINAL KAPH,bKAPH,bFINAL LAMEDH,
     bLAMEDH,bFINAL MEM,bMEM,bFINAL NUN,bNUN,bSAMEKH,bAYIN,bPE,bSADHE,bQOPH,bRESH,bFINAL SHIN,bSHIN,
     bTAW,,,,,,,,,aNUMBER ONE,bTWO,bTHREE,bFOUR,aCRUCIFORM NUMBER FOUR,aNUMBER FIVE,bTEN,bTWENTY,
     bONE HUNDRED"),
   (0x108e0, "HATRAN LETTER ALEPH,bBETH,bGIMEL,bDALETH-RESH,bHE,bWAW,bZAYN,bHETH,bTETH,bYODH,bKAPH,
     bLAMEDH,bMEM,bNUN,bSAMEKH,bAYN,bPE,bSADHE,bQOPH,,bSHIN,bTAW,,,,,,aNUMBER ONE,bFIVE,bTEN,
     bTWENTY,bONE HUNDRED,PHOENICIAN LETTER ALF,bBET,bGAML,bDELT,bHE,bWAU,bZAI,bHET,bTET,bYOD,bKAF,
     bLAMD,bMEM,bNUN,bSEMK,bAIN,bPE,bSADE,bQOF,bROSH,bSHIN,bTAU,aNUMBER ONE,bTEN,bTWENTY,
     bONE HUNDRED,bTWO,bTHREE,,,,aWORD SEPARATOR,LYDIAN LETTER A,bB,bG,bD,bE,bV,bI,bY,bK,bL,bM,bN,
     bO,bR,bSS,bT,bU,bF,bQ,bS,bTT,bAN,bEN,bLY,bNN,bC,,,,,,aTRIANGULAR MARK"),
   (0x10980, "MEROITIC HIEROGLYPHIC LETTER A,cE,cI,cO,cYA,cWA,cBA,cBA-2,cPA,cMA,cNA,cNA-2,cNE,cNE-2,
     cRA,cRA-2,cLA,cKHA,cHHA,cSA,cSA-2,cSE,cKA,cQA,cTA,cTA-2,cTE,cTE-2,cTO,cDA,bSYMBOL VIDJ,cVIDJ-2,
     aCURSIVE LETTER A,cE,cI,cO,cYA,cWA,cBA,cPA,cMA,cNA,cNE,cRA,cLA,cKHA,cHHA,cSA,cARCHAIC SA,cSE,
     cKA,cQA,cTA,cTE,cTO,cDA,,,,,bFRACTION ELEVEN TWELFTHS,cONE HALF,bLOGOGRAM RMT,cIMN,bNUMBER ONE,
     cTWO,cTHREE,cFOUR,cFIVE,cSIX,cSEVEN,cEIGHT,cNINE,cTEN,cTWENTY,cTHIRTY,cFORTY,cFIFTY,cSIXTY,
     cSEVENTY,,,cONE HUNDRED,cTWO HUNDRED,cTHREE HUNDRED,cFOUR HUNDRED,cFIVE HUNDRED,cSIX HUNDRED,
     cSEVEN HUNDRED,cEIGHT HUNDRED,cNINE HUNDRED,cONE THOUSAND,cTWO THOUSAND,cTHREE THOUSAND,
     cFOUR THOUSAND,cFIVE THOUSAND,cSIX THOUSAND,cSEVEN THOUSAND,cEIGHT THOUSAND,cNINE THOUSAND,
     cTEN THOUSAND,cTWENTY THOUSAND,cTHIRTY THOUSAND,cFORTY THOUSAND,cFIFTY THOUSAND,
     cSIXTY THOUSAND,cSEVENTY THOUSAND,cEIGHTY THOUSAND,cNINETY THOUSAND,cONE HUNDRED THOUSAND,
     cTWO HUNDRED THOUSAND,cTHREE HUNDRED THOUSAND,cFOUR HUNDRED THOUSAND,cFIVE HUNDRED THOUSAND,
     cSIX HUNDRED THOUSAND,cSEVEN HUNDRED THOUSAND,cEIGHT HUNDRED THOUSAND,cNINE HUNDRED THOUSAND,
     bFRACTION ONE TWELFTH,cTWO TWELFTHS,cTHREE TWELFTHS,cFOUR TWELFTHS,cFIVE TWELFTHS,
     cSIX TWELFTHS,cSEVEN TWELFTHS,cEIGHT TWELFTHS,cNINE TWELFTHS,cTEN TWELFTHS,KHAROSHTHI LETTER A,
     aVOWEL SIGN I,cU,cVOCALIC R,,cE,cO,,,,,,bLENGTH MARK,aSIGN DOUBLE RING BELOW,bANUSVARA,
     bVISARGA,aLETTER KA,bKHA,bGA,bGHA,,bCA,bCHA,bJA,,bNYA,bTTA,bTTHA,bDDA,bDDHA,bNNA,bTA,bTHA,bDA,
     bDHA,bNA,bPA,bPHA,bBA,bBHA,bMA,bYA,bRA,bLA,bVA,bSHA,bSSA,bSA,bZA,bHA,bKKA,bTTTHA,bTTTA,bVHA,,,
     aSIGN BAR ABOVE,bCAUDA,bDOT BELOW,,,,,aVIRAMA,aDIGIT ONE,bTWO,bTHREE,bFOUR,aNUMBER TEN,bTWENTY,
     bONE HUNDRED,cTHOUSAND,aFRACTION ONE HALF,,,,,,,,aPUNCTUATION DOT,bSMALL CIRCLE,bCIRCLE,
     bCRESCENT BAR,bMANGALAM,bLOTUS,bDANDA,bDOUBLE DANDA,bLINES,,,,,,,,OLD SOUTH ARABIAN LETTER HE,
     dLAMEDH,dHETH,dMEM,dQOPH,dWAW,dSHIN,dRESH,dBETH,dTAW,dSAT,dKAPH,dNUN,dKHETH,dSADHE,dSAMEKH,dFE,
     dALEF,dAYN,dDHADHE,dGIMEL,dDALETH,dGHAYN,dTETH,dZAYN,dDHALETH,dYODH,dTHAW,dTHETH,cNUMBER ONE,
     dFIFTY,cNUMERIC INDICATOR,aNORTH ARABIAN LETTER HEH,dLAM,dHAH,dMEEM,dQAF,dWAW,dES-2,dREH,dBEH,
     dTEH,dES-1,dKAF,dNOON,dKHAH,dSAD,dES-3,dFEH,dALEF,dAIN,dDAD,dGEEM,dDAL,dGHAIN,dTAH,dZAIN,dTHAL,
     dYEH,dTHEH,dZAH,cNUMBER ONE,dTEN,dTWENTY"),
   (0x10ac0, "MANICHAEAN LETTER ALEPH,bBETH,bBHETH,bGIMEL,bGHIMEL,bDALETH,bHE,bWAW,aSIGN UD,
     aLETTER ZAYIN,bZHAYIN,bJAYIN,bJHAYIN,bHETH,bTETH,bYODH,bKAPH,bXAPH,bKHAPH,bLAMEDH,bDHAMEDH,
     bTHAMEDH,bMEM,bNUN,bSAMEKH,bAYIN,bAAYIN,bPE,bFE,bSADHE,bQOPH,bXOPH,bQHOPH,bRESH,bSHIN,bSSHIN,
     bTAW,aABBREVIATION MARK ABOVE,cBELOW,,,,,aNUMBER ONE,bFIVE,bTEN,bTWENTY,bONE HUNDRED,
     aPUNCTUATION STAR,bFLEURON,bDOUBLE DOT WITHIN DOT,bDOT WITHIN DOT,bDOT,bTWO DOTS,
     bLINE FILLER"),
   (0x10b00, "AVESTAN LETTER A,bAA,bAO,bAAO,bAN,bAAN,bAE,bAEE,bE,bEE,bO,bOO,bI,bII,bU,bUU,bKE,bXE,
     bXYE,bXVE,bGE,bGGE,bGHE,bCE,bJE,bTE,bTHE,bDE,bDHE,bTTE,bPE,bFE,bBE,bBHE,bNGE,bNGYE,bNGVE,bNE,
     bNYE,bNNE,bME,bHME,bYYE,bYE,bVE,bRE,bLE,bSE,bZE,bSHE,bZHE,bSHYE,bSSHE,bHE,,,,
     aABBREVIATION MARK,TINY TWO DOTS OVER ONE DOT PUNCTUATION,
     SMALL TWO DOTS OVER ONE DOT PUNCTUATION,LARGE TWO DOTS OVER ONE DOT PUNCTUATION,
     aONE DOT OVER TWO DOTS PUNCTUATION,aTWO RINGS OVER ONE RING PUNCTUATION,
     aONE RING OVER TWO RINGS PUNCTUATION,INSCRIPTIONAL PARTHIAN LETTER ALEPH,cBETH,cGIMEL,cDALETH,
     cHE,cWAW,cZAYIN,cHETH,cTETH,cYODH,cKAPH,cLAMEDH,cMEM,cNUN,cSAMEKH,cAYIN,cPE,cSADHE,cQOPH,cRESH,
     cSHIN,cTAW,,,bNUMBER ONE,cTWO,cTHREE,cFOUR,cTEN,cTWENTY,cONE HUNDRED,dTHOUSAND,
     aPAHLAVI LETTER ALEPH,cBETH,cGIMEL,cDALETH,cHE,cWAW-AYIN-RESH,cZAYIN,cHETH,cTETH,cYODH,cKAPH,
     cLAMEDH,cMEM-QOPH,cNUN,cSAMEKH,cPE,cSADHE,cSHIN,cTAW,,,,,,bNUMBER ONE,cTWO,cTHREE,cFOUR,cTEN,
     cTWENTY,cONE HUNDRED,dTHOUSAND,PSALTER PAHLAVI LETTER ALEPH,cBETH,cGIMEL,cDALETH,cHE,
     cWAW-AYIN-RESH,cZAYIN,cHETH,cYODH,cKAPH,cLAMEDH,cMEM-QOPH,cNUN,cSAMEKH,cPE,cSADHE,cSHIN,cTAW,,,
     ,,,,,bSECTION MARK,bTURNED SECTION MARK,bFOUR DOTS WITH CROSS,eDOT"),
   (0x10ba9, "PSALTER PAHLAVI NUMBER ONE,cTWO,cTHREE,cFOUR,cTEN,cTWENTY,cONE HUNDRED"),
   (0x10c00, "OLD TURKIC LETTER ORKHON A,cYENISEI A,dAE,cORKHON I,cYENISEI I,dE,cORKHON O,dOE,
     cYENISEI OE,cORKHON AB,cYENISEI AB,cORKHON AEB,cYENISEI AEB,cORKHON AG,cYENISEI AG,cORKHON AEG,
     cYENISEI AEG,cORKHON AD,cYENISEI AD,cORKHON AED,dEZ,cYENISEI EZ,cORKHON AY,cYENISEI AY,
     cORKHON AEY,cYENISEI AEY,cORKHON AEK,cYENISEI AEK,cORKHON OEK,cYENISEI OEK,cORKHON AL,
     cYENISEI AL,cORKHON AEL,dELT,dEM,dAN,dAEN,cYENISEI AEN,cORKHON ENT,cYENISEI ENT,cORKHON ENC,
     cYENISEI ENC,cORKHON ENY,cYENISEI ENY,dANG,cORKHON ENG,cYENISEI AENG,cORKHON EP,dOP,dIC,dEC,
     cYENISEI EC,cORKHON AQ,cYENISEI AQ,cORKHON IQ,cYENISEI IQ,cORKHON OQ,cYENISEI OQ,cORKHON AR,
     cYENISEI AR,cORKHON AER,dAS,dAES,dASH,cYENISEI ASH,cORKHON ESH,cYENISEI ESH,cORKHON AT,
     cYENISEI AT,cORKHON AET,cYENISEI AET,cORKHON OT,dBASH"),
   (0x10c80, "OLD HUNGARIAN CAPITAL LETTER A,dAA,dEB,dAMB,dEC,dENC,dECS,dED,dAND,dE,dCLOSE E,dEE,
     dEF,dEG,dEGY,dEH,dI,dII,dEJ,dEK,dAK,dUNK,dEL,dELY,dEM,dEN,dENY,dO,dOO,dNIKOLSBURG OE,
     dRUDIMENTA OE,dOEE,dEP,dEMP,dER,dSHORT ER,dES,dESZ,dET,dENT,dETY,dECH,dU,dUU,dNIKOLSBURG UE,
     dRUDIMENTA UE,dEV,dEZ,dEZS,dENT-SHAPED SIGN,dUS"),
   (0x10cc0, "OLD HUNGARIAN SMALL LETTER A,dAA,dEB,dAMB,dEC,dENC,dECS,dED,dAND,dE,dCLOSE E,dEE,dEF,
     dEG,dEGY,dEH,dI,dII,dEJ,dEK,dAK,dUNK,dEL,dELY,dEM,dEN,dENY,dO,dOO,dNIKOLSBURG OE,dRUDIMENTA OE,
     dOEE,dEP,dEMP,dER,dSHORT ER,dES,dESZ,dET,dENT,dETY,dECH,dU,dUU,dNIKOLSBURG UE,dRUDIMENTA UE,
     dEV,dEZ,dEZS,dENT-SHAPED SIGN,dUS,,,,,,,,bNUMBER ONE,cFIVE,cTEN,cFIFTY,cONE HUNDRED,dTHOUSAND,
     HANIFI ROHINGYA LETTER A,cBA,cPA,cTA,cTTA,cJA,cCA,cHA,cKHA,cFA,cDA,cDDA,cRA,cRRA,cZA,cSA,cSHA,
     cKA,cGA,cLA,cMA,cNA,cWA,cKINNA WA,cYA,cKINNA YA,cNGA,cNYA,cVA,bVOWEL A,cI,cU,cE,cO,bMARK SAKIN,
     cNA KHONNA,bSIGN HARBAHAY,cTAHALA,cTANA,cTASSI,,,,,,,,,bDIGIT ZERO,cONE,cTWO,cTHREE,cFOUR,
     cFIVE,cSIX,cSEVEN,cEIGHT,cNINE"),
   (0x10e60, "RUMI DIGIT ONE,bTWO,bTHREE,bFOUR,bFIVE,bSIX,bSEVEN,bEIGHT,bNINE,aNUMBER TEN,bTWENTY,
     bTHIRTY,bFORTY,bFIFTY,bSIXTY,bSEVENTY,bEIGHTY,bNINETY,bONE HUNDRED,bTWO HUNDRED,bTHREE HUNDRED,
     bFOUR HUNDRED,bFIVE HUNDRED,bSIX HUNDRED,bSEVEN HUNDRED,bEIGHT HUNDRED,bNINE HUNDRED,
     aFRACTION ONE HALF,cQUARTER,cTHIRD,bTWO THIRDS,,YEZIDI LETTER ELIF,bBE,bPE,bPHE,bTHE,bSE,bCIM,
     bCHIM,bCHHIM,bHHA,bXA,bDAL,bZAL,bRA,bRHA,bZA,bJA,bSIN,bSHIN,bSAD,bDAD,bTA,bZE,bEYN,bXHEYN,bFA,
     bVA,cALTERNATE FORM,bQAF,bKAF,bKHAF,bGAF,bLAM,bMIM,bNUN,bUM,bWAW,bOW,bEW,bHAY,bYOT,bET,,
     aCOMBINING HAMZA MARK,bMADDA MARK,aHYPHENATION MARK,,,aLETTER LAM WITH DOT ABOVE,
     bYOT WITH CIRCUMFLEX ABOVE"),
   (0x10f00, "OLD SOGDIAN LETTER ALEPH,cFINAL ALEPH,cBETH,cFINAL BETH,cGIMEL,cHE,cFINAL HE,cWAW,
     cZAYIN,cHETH,cYODH,cKAPH,cLAMEDH,cMEM,cNUN,cFINAL NUN,eWITH VERTICAL TAIL,cSAMEKH,cAYIN,
     cALTERNATE AYIN,cPE,cSADHE,cFINAL SADHE,eWITH VERTICAL TAIL,cRESH-AYIN-DALETH,cSHIN,cTAW,
     cFINAL TAW,eWITH VERTICAL TAIL,bNUMBER ONE,cTWO,cTHREE,cFOUR,cFIVE,cTEN,cTWENTY,cTHIRTY,
     cONE HUNDRED,bFRACTION ONE HALF,bLIGATURE AYIN-DALETH,,,,,,,,,SOGDIAN LETTER ALEPH,bBETH,
     bGIMEL,bHE,bWAW,bZAYIN,bHETH,bYODH,bKAPH,bLAMEDH,bMEM,bNUN,bSAMEKH,bAYIN,bPE,bSADHE,bRESH-AYIN,
     bSHIN,bTAW,bFETH,bLESH,aINDEPENDENT SHIN,aCOMBINING DOT BELOW,bTWO DOTS BELOW,bDOT ABOVE,
     bTWO DOTS ABOVE,bCURVE ABOVE,cBELOW,bHOOK ABOVE,cBELOW,bLONG HOOK BELOW,bRESH BELOW,
     bSTROKE BELOW,aNUMBER ONE,bTEN,bTWENTY,bONE HUNDRED,aPUNCTUATION TWO VERTICAL BARS,eWITH DOTS,
     bCIRCLE WITH DOT,bTWO CIRCLES WITH DOTS,bHALF CIRCLE WITH DOT"),
   (0x10f70, "OLD UYGHUR LETTER ALEPH,cBETH,cGIMEL-HETH,cWAW,cZAYIN,cFINAL HETH,cYODH,cKAPH,cLAMEDH,
     cMEM,cNUN,cSAMEKH,cPE,cSADHE,cRESH,cSHIN,cTAW,cLESH,bCOMBINING DOT ABOVE,dBELOW,
     cTWO DOTS ABOVE,eBELOW,bPUNCTUATION BAR,cTWO BARS,dDOTS,cFOUR DOTS"),
   (0x10fb0, "CHORASMIAN LETTER ALEPH,bSMALL ALEPH,bBETH,bGIMEL,bDALETH,bHE,bWAW,bCURLED WAW,bZAYIN,
     bHETH,bYODH,bKAPH,bLAMEDH,bMEM,bNUN,bSAMEKH,bAYIN,bPE,bRESH,bSHIN,bTAW,aNUMBER ONE,bTWO,bTHREE,
     bFOUR,bTEN,bTWENTY,bONE HUNDRED"),
   (0x10fe0, "ELYMAIC LETTER ALEPH,bBETH,bGIMEL,bDALETH,bHE,bWAW,bZAYIN,bHETH,bTETH,bYODH,bKAPH,
     bLAMEDH,bMEM,bNUN,bSAMEKH,bAYIN,bPE,bSADHE,bQOPH,bRESH,bSHIN,bTAW,aLIGATURE ZAYIN-YODH"),
   (0x11000, "BRAHMI SIGN CANDRABINDU,bANUSVARA,bVISARGA,bJIHVAMULIYA,bUPADHMANIYA,aLETTER A,bAA,bI,
     bII,bU,bUU,bVOCALIC R,cRR,cL,cLL,bE,bAI,bO,bAU,bKA,bKHA,bGA,bGHA,bNGA,bCA,bCHA,bJA,bJHA,bNYA,
     bTTA,bTTHA,bDDA,bDDHA,bNNA,bTA,bTHA,bDA,bDHA,bNA,bPA,bPHA,bBA,bBHA,bMA,bYA,bRA,bLA,bVA,bSHA,
     bSSA,bSA,bHA,bLLA,bOLD TAMIL LLLA,dRRA,dNNNA,aVOWEL SIGN AA,cBHATTIPROLU AA,cI,cII,cU,cUU,
     cVOCALIC R,dRR,dL,dLL,cE,cAI,cO,cAU,aVIRAMA,aDANDA,aDOUBLE DANDA,aPUNCTUATION DOT,bDOUBLE DOT,
     bLINE,bCRESCENT BAR,bLOTUS,,,,,aNUMBER ONE,bTWO,bTHREE,bFOUR,bFIVE,bSIX,bSEVEN,bEIGHT,bNINE,
     bTEN,bTWENTY,bTHIRTY,bFORTY,bFIFTY,bSIXTY,bSEVENTY,bEIGHTY,bNINETY,bONE HUNDRED,cTHOUSAND,
     aDIGIT ZERO,bONE,bTWO,bTHREE,bFOUR,bFIVE,bSIX,bSEVEN,bEIGHT,bNINE,aSIGN OLD TAMIL VIRAMA,
     aLETTER OLD TAMIL SHORT E,eO,aVOWEL SIGN OLD TAMIL SHORT E,fO,aLETTER OLD TAMIL LLA"),
   (0x1107f, "BRAHMI NUMBER JOINER,KAITHI SIGN CANDRABINDU,bANUSVARA,bVISARGA,aLETTER A,bAA,bI,bII,
     bU,bUU,bE,bAI,bO,bAU,bKA,bKHA,bGA,bGHA,bNGA,bCA,bCHA,bJA,bJHA,bNYA,bTTA,bTTHA,bDDA,bDDDHA,
     bDDHA,bRHA,bNNA,bTA,bTHA,bDA,bDHA,bNA,bPA,bPHA,bBA,bBHA,bMA,bYA,bRA,bLA,bVA,bSHA,bSSA,bSA,bHA,
     aVOWEL SIGN AA,cI,cII,cU,cUU,cE,cAI,cO,cAU,aSIGN VIRAMA,bNUKTA,aABBREVIATION SIGN,
     aENUMERATION SIGN,aNUMBER SIGN,aSECTION MARK,aDOUBLE SECTION MARK,aDANDA,aDOUBLE DANDA,
     aVOWEL SIGN VOCALIC R"),
   (0x110cd, "KAITHI NUMBER SIGN ABOVE,,,SORA SOMPENG LETTER SAH,cTAH,cBAH,cCAH,cDAH,cGAH,cMAH,
     cNGAH,cLAH,cNAH,cVAH,cPAH,cYAH,cRAH,cHAH,cKAH,cJAH,cNYAH,cAH,cEEH,cIH,cUH,cOH,cEH,cMAE,,,,,,,,
     bDIGIT ZERO,cONE,cTWO,cTHREE,cFOUR,cFIVE,cSIX,cSEVEN,cEIGHT,cNINE,,,,,,,
     CHAKMA SIGN CANDRABINDU,bANUSVARA,bVISARGA,aLETTER AA,bI,bU,bE,bKAA,bKHAA,bGAA,bGHAA,bNGAA,
     bCAA,bCHAA,bJAA,bJHAA,bNYAA,bTTAA,bTTHAA,bDDAA,bDDHAA,bNNAA,bTAA,bTHAA,bDAA,bDHAA,bNAA,bPAA,
     bPHAA,bBAA,bBHAA,bMAA,bYYAA,bYAA,bRAA,bLAA,bWAA,bSAA,bHAA,aVOWEL SIGN A,cI,cII,cU,cUU,cE,cAI,
     cO,cAU,cOI,aO MARK,aAU MARK,aVIRAMA,aMAAYYAA,,aDIGIT ZERO,bONE,bTWO,bTHREE,bFOUR,bFIVE,bSIX,
     bSEVEN,bEIGHT,bNINE,aSECTION MARK,aDANDA,aDOUBLE DANDA,aQUESTION MARK,aLETTER LHAA,
     aVOWEL SIGN AA,cEI,aLETTER VAA,,,,,,,,,MAHAJANI LETTER A,bI,bU,bE,bO,bKA,bKHA,bGA,bGHA,bCA,
     bCHA,bJA,bJHA,bNYA,bTTA,bTTHA,bDDA,bDDHA,bNNA,bTA,bTHA,bDA,bDHA,bNA,bPA,bPHA,bBA,bBHA,bMA,bRA,
     bLA,bVA,bSA,bHA,bRRA,aSIGN NUKTA,aABBREVIATION SIGN,aSECTION MARK,aLIGATURE SHRI"),
   (0x11180, "SHARADA SIGN CANDRABINDU,bANUSVARA,bVISARGA,aLETTER A,bAA,bI,bII,bU,bUU,bVOCALIC R,
     cRR,cL,cLL,bE,bAI,bO,bAU,bKA,bKHA,bGA,bGHA,bNGA,bCA,bCHA,bJA,bJHA,bNYA,bTTA,bTTHA,bDDA,bDDHA,
     bNNA,bTA,bTHA,bDA,bDHA,bNA,bPA,bPHA,bBA,bBHA,bMA,bYA,bRA,bLA,bLLA,bVA,bSHA,bSSA,bSA,bHA,
     aVOWEL SIGN AA,cI,cII,cU,cUU,cVOCALIC R,dRR,dL,dLL,cE,cAI,cO,cAU,aSIGN VIRAMA,bAVAGRAHA,
     bJIHVAMULIYA,bUPADHMANIYA,aOM,aDANDA,aDOUBLE DANDA,aABBREVIATION SIGN,aSEPARATOR,aSANDHI MARK,
     aSIGN NUKTA,aVOWEL MODIFIER MARK,aEXTRA SHORT VOWEL MARK,aSUTRA MARK,
     aVOWEL SIGN PRISHTHAMATRA E,aSIGN INVERTED CANDRABINDU,aDIGIT ZERO,bONE,bTWO,bTHREE,bFOUR,
     bFIVE,bSIX,bSEVEN,bEIGHT,bNINE,aEKAM,aSIGN SIDDHAM,aHEADSTROKE,aCONTINUATION SIGN,
     aSECTION MARK-1,bMARK-2,,SINHALA ARCHAIC DIGIT ONE,cTWO,cTHREE,cFOUR,cFIVE,cSIX,cSEVEN,cEIGHT,
     cNINE,bNUMBER TEN,cTWENTY,cTHIRTY,cFORTY,cFIFTY,cSIXTY,cSEVENTY,cEIGHTY,cNINETY,cONE HUNDRED,
     dTHOUSAND"),
   (0x11200, "KHOJKI LETTER A,bAA,bI,bU,bE,bAI,bO,bAU,bKA,bKHA,bGA,bGGA,bGHA,bNGA,bCA,bCHA,bJA,bJJA,
     ,bNYA,bTTA,bTTHA,bDDA,bDDHA,bNNA,bTA,bTHA,bDA,bDDDA,bDHA,bNA,bPA,bPHA,bBA,bBBA,bBHA,bMA,bYA,
     bRA,bLA,bVA,bSA,bHA,bLLA,aVOWEL SIGN AA,cI,cII,cU,cE,cAI,cO,cAU,aSIGN ANUSVARA,bVIRAMA,bNUKTA,
     bSHADDA,aDANDA,aDOUBLE DANDA,aWORD SEPARATOR,aSECTION MARK,aDOUBLE SECTION MARK,
     aABBREVIATION SIGN,aSIGN SUKUN"),
   (0x11280, "MULTANI LETTER A,bI,bU,bE,bKA,bKHA,bGA,,bGHA,,bCA,bCHA,bJA,bJJA,,bNYA,bTTA,bTTHA,bDDA,
     bDDDA,bDDHA,bNNA,bTA,bTHA,bDA,bDHA,bNA,bPA,bPHA,bBA,,bBHA,bMA,bYA,bRA,bLA,bVA,bSA,bHA,bRRA,
     bRHA,aSECTION MARK,,,,,,,KHUDAWADI LETTER A,bAA,bI,bII,bU,bUU,bE,bAI,bO,bAU,bKA,bKHA,bGA,bGGA,
     bGHA,bNGA,bCA,bCHA,bJA,bJJA,bJHA,bNYA,bTTA,bTTHA,bDDA,bDDDA,bRRA,bDDHA,bNNA,bTA,bTHA,bDA,bDHA,
     bNA,bPA,bPHA,bBA,bBBA,bBHA,bMA,bYA,bRA,bLA,bVA,bSHA,bSA,bHA,aSIGN ANUSVARA,aVOWEL SIGN AA,cI,
     cII,cU,cUU,cE,cAI,cO,cAU,aSIGN NUKTA,bVIRAMA,,,,,,aDIGIT ZERO,bONE,bTWO,bTHREE,bFOUR,bFIVE,
     bSIX,bSEVEN,bEIGHT,bNINE,,,,,,,GRANTHA SIGN COMBINING ANUSVARA ABOVE,bCANDRABINDU,bANUSVARA,
     bVISARGA,,aLETTER A,bAA,bI,bII,bU,bUU,bVOCALIC R,cL,,,bEE,bAI,,,bOO,bAU,bKA,bKHA,bGA,bGHA,bNGA,
     bCA,bCHA,bJA,bJHA,bNYA,bTTA,bTTHA,bDDA,bDDHA,bNNA,bTA,bTHA,bDA,bDHA,bNA,,bPA,bPHA,bBA,bBHA,bMA,
     bYA,bRA,,bLA,bLLA,,bVA,bSHA,bSSA,bSA,bHA,,COMBINING BINDU BELOW,GRANTHA SIGN NUKTA,bAVAGRAHA,
     aVOWEL SIGN AA,cI,cII,cU,cUU,cVOCALIC R,dRR,,,cEE,cAI,,,cOO,cAU,aSIGN VIRAMA,,,aOM,,,,,,,
     aAU LENGTH MARK,,,,,,aSIGN PLUTA,aLETTER VEDIC ANUSVARA,cDOUBLE ANUSVARA,bVOCALIC RR,cLL,
     aVOWEL SIGN VOCALIC L,dLL,,,COMBINING GRANTHA DIGIT ZERO,cONE,cTWO,cTHREE,cFOUR,cFIVE,cSIX,,,,
     bLETTER A,cKA,cNA,cVI,cPA"),
   (0x11400, "NEWA LETTER A,bAA,bI,bII,bU,bUU,bVOCALIC R,cRR,cL,cLL,bE,bAI,bO,bAU,bKA,bKHA,bGA,bGHA,
     bNGA,bNGHA,bCA,bCHA,bJA,bJHA,bNYA,bNYHA,bTTA,bTTHA,bDDA,bDDHA,bNNA,bTA,bTHA,bDA,bDHA,bNA,bNHA,
     bPA,bPHA,bBA,bBHA,bMA,bMHA,bYA,bRA,bRHA,bLA,bLHA,bWA,bSHA,bSSA,bSA,bHA,aVOWEL SIGN AA,cI,cII,
     cU,cUU,cVOCALIC R,dRR,dL,dLL,cE,cAI,cO,cAU,aSIGN VIRAMA,bCANDRABINDU,bANUSVARA,bVISARGA,bNUKTA,
     bAVAGRAHA,bFINAL ANUSVARA,aOM,aSIDDHI,aDANDA,aDOUBLE DANDA,aCOMMA,aGAP FILLER,
     aABBREVIATION SIGN,aDIGIT ZERO,bONE,bTWO,bTHREE,bFOUR,bFIVE,bSIX,bSEVEN,bEIGHT,bNINE,
     aDOUBLE COMMA,aPLACEHOLDER MARK,,aINSERTION SIGN,aSANDHI MARK,aLETTER VEDIC ANUSVARA,
     aSIGN JIHVAMULIYA,bUPADHMANIYA"),
   (0x11480, "TIRHUTA ANJI,aLETTER A,bAA,bI,bII,bU,bUU,bVOCALIC R,cRR,cL,cLL,bE,bAI,bO,bAU,bKA,bKHA,
     bGA,bGHA,bNGA,bCA,bCHA,bJA,bJHA,bNYA,bTTA,bTTHA,bDDA,bDDHA,bNNA,bTA,bTHA,bDA,bDHA,bNA,bPA,bPHA,
     bBA,bBHA,bMA,bYA,bRA,bLA,bVA,bSHA,bSSA,bSA,bHA,aVOWEL SIGN AA,cI,cII,cU,cUU,cVOCALIC R,dRR,dL,
     dLL,cE,cSHORT E,cAI,cO,cSHORT O,cAU,aSIGN CANDRABINDU,bANUSVARA,bVISARGA,bVIRAMA,bNUKTA,
     bAVAGRAHA,aGVANG,aABBREVIATION SIGN,aOM,,,,,,,,,aDIGIT ZERO,bONE,bTWO,bTHREE,bFOUR,bFIVE,bSIX,
     bSEVEN,bEIGHT,bNINE"),
   (0x11580, "SIDDHAM LETTER A,bAA,bI,bII,bU,bUU,bVOCALIC R,cRR,cL,cLL,bE,bAI,bO,bAU,bKA,bKHA,bGA,
     bGHA,bNGA,bCA,bCHA,bJA,bJHA,bNYA,bTTA,bTTHA,bDDA,bDDHA,bNNA,bTA,bTHA,bDA,bDHA,bNA,bPA,bPHA,bBA,
     bBHA,bMA,bYA,bRA,bLA,bVA,bSHA,bSSA,bSA,bHA,aVOWEL SIGN AA,cI,cII,cU,cUU,cVOCALIC R,dRR,,,cE,
     cAI,cO,cAU,aSIGN CANDRABINDU,bANUSVARA,bVISARGA,bVIRAMA,bNUKTA,bSIDDHAM,aDANDA,aDOUBLE DANDA,
     aSEPARATOR DOT,bBAR,aREPETITION MARK-1,bMARK-2,bMARK-3,aEND OF TEXT MARK,
     aSECTION MARK WITH TRIDENT AND U-SHAPED ORNAMENTS,fDOTTED CRESCENTS,dRAYS AND DOTTED CRESCENTS,
     gDOUBLE CRESCENTS,gTRIPLE CRESCENTS,cDOUBLE RING,eWITH RAYS,cWITH DOUBLE CRESCENTS,
     dTRIPLE CRESCENTS,dQUADRUPLE CRESCENTS,dSEPTUPLE CRESCENTS,dCIRCLES AND RAYS,fTWO ENCLOSURES,
     fFOUR ENCLOSURES,aLETTER THREE-CIRCLE ALTERNATE I,bTWO-CIRCLE ALTERNATE I,dII,bALTERNATE U,
     aVOWEL SIGN ALTERNATE U,dUU"),
   (0x11600, "MODI LETTER A,bAA,bI,bII,bU,bUU,bVOCALIC R,cRR,cL,cLL,bE,bAI,bO,bAU,bKA,bKHA,bGA,bGHA,
     bNGA,bCA,bCHA,bJA,bJHA,bNYA,bTTA,bTTHA,bDDA,bDDHA,bNNA,bTA,bTHA,bDA,bDHA,bNA,bPA,bPHA,bBA,bBHA,
     bMA,bYA,bRA,bLA,bVA,bSHA,bSSA,bSA,bHA,bLLA,aVOWEL SIGN AA,cI,cII,cU,cUU,cVOCALIC R,dRR,dL,dLL,
     cE,cAI,cO,cAU,aSIGN ANUSVARA,bVISARGA,bVIRAMA,bARDHACANDRA,aDANDA,aDOUBLE DANDA,
     aABBREVIATION SIGN,aSIGN HUVA"),
   (0x11650, "MODI DIGIT ZERO,bONE,bTWO,bTHREE,bFOUR,bFIVE,bSIX,bSEVEN,bEIGHT,bNINE,,,,,,,
     MONGOLIAN BIRGA WITH ORNAMENT,aROTATED BIRGA,aDOUBLE BIRGA WITH ORNAMENT,
     aTRIPLE BIRGA WITH ORNAMENT,aBIRGA WITH DOUBLE ORNAMENT,aROTATED BIRGA WITH ORNAMENT,
     dDOUBLE ORNAMENT,aINVERTED BIRGA,cWITH DOUBLE ORNAMENT,aSWIRL BIRGA,cWITH ORNAMENT,
     dDOUBLE ORNAMENT,aTURNED SWIRL BIRGA WITH DOUBLE ORNAMENT"),
   (0x11680, "TAKRI LETTER A,bAA,bI,bII,bU,bUU,bE,bAI,bO,bAU,bKA,bKHA,bGA,bGHA,bNGA,bCA,bCHA,bJA,
     bJHA,bNYA,bTTA,bTTHA,bDDA,bDDHA,bNNA,bTA,bTHA,bDA,bDHA,bNA,bPA,bPHA,bBA,bBHA,bMA,bYA,bRA,bLA,
     bVA,bSHA,bSA,bHA,bRRA,aSIGN ANUSVARA,bVISARGA,aVOWEL SIGN AA,cI,cII,cU,cUU,cE,cAI,cO,cAU,
     aSIGN VIRAMA,bNUKTA,aLETTER ARCHAIC KHA,aABBREVIATION SIGN,,,,,,,aDIGIT ZERO,bONE,bTWO,bTHREE,
     bFOUR,bFIVE,bSIX,bSEVEN,bEIGHT,bNINE"),
   (0x11700, "AHOM LETTER KA,bKHA,bNGA,bNA,bTA,bALTERNATE TA,bPA,bPHA,bBA,bMA,bJA,bCHA,bTHA,bRA,bLA,
     bSA,bNYA,bHA,bA,bDA,bDHA,bGA,bALTERNATE GA,bGHA,bBHA,bJHA,bALTERNATE BA,,,
     aCONSONANT SIGN MEDIAL LA,dRA,dLIGATING RA,aVOWEL SIGN A,cAA,cI,cII,cU,cUU,cE,cAW,cO,cAI,cAM,
     aSIGN KILLER,,,,,aDIGIT ZERO,bONE,bTWO,bTHREE,bFOUR,bFIVE,bSIX,bSEVEN,bEIGHT,bNINE,aNUMBER TEN,
     bTWENTY,aSIGN SMALL SECTION,bSECTION,bRULAI,aSYMBOL VI,aLETTER CA,bTTA,bTTHA,bDDA,bDDHA,bNNA,
     bLLA"),
   (0x11800, "DOGRA LETTER A,bAA,bI,bII,bU,bUU,bE,bAI,bO,bAU,bKA,bKHA,bGA,bGHA,bNGA,bCA,bCHA,bJA,
     bJHA,bNYA,bTTA,bTTHA,bDDA,bDDHA,bNNA,bTA,bTHA,bDA,bDHA,bNA,bPA,bPHA,bBA,bBHA,bMA,bYA,bRA,bLA,
     bVA,bSHA,bSSA,bSA,bHA,bRRA,aVOWEL SIGN AA,cI,cII,cU,cUU,cVOCALIC R,dRR,cE,cAI,cO,cAU,
     aSIGN ANUSVARA,bVISARGA,bVIRAMA,bNUKTA,aABBREVIATION SIGN"),
   (0x118a0, "WARANG CITI CAPITAL LETTER NGAA,dA,dWI,dYU,dYA,dYO,dII,dUU,dE,dO,dANG,dGA,dKO,dENY,
     dYUJ,dUC,dENN,dODD,dTTE,dNUNG,dDA,dAT,dAM,dBU,dPU,dHIYO,dHOLO,dHORR,dHAR,dSSUU,dSII,dVIYO,
     bSMALL LETTER NGAA,dA,dWI,dYU,dYA,dYO,dII,dUU,dE,dO,dANG,dGA,dKO,dENY,dYUJ,dUC,dENN,dODD,dTTE,
     dNUNG,dDA,dAT,dAM,dBU,dPU,dHIYO,dHOLO,dHORR,dHAR,dSSUU,dSII,dVIYO,bDIGIT ZERO,cONE,cTWO,cTHREE,
     cFOUR,cFIVE,cSIX,cSEVEN,cEIGHT,cNINE,bNUMBER TEN,cTWENTY,cTHIRTY,cFORTY,cFIFTY,cSIXTY,cSEVENTY,
     cEIGHTY,cNINETY"),
   (0x118ff, "WARANG CITI OM,DIVES AKURU LETTER A,cAA,cI,cII,cU,cUU,cE,,,cO,,,cKA,cKHA,cGA,cGHA,
     cNGA,cCA,cCHA,cJA,,cNYA,cTTA,,cDDA,cDDHA,cNNA,cTA,cTHA,cDA,cDHA,cNA,cPA,cPHA,cBA,cBHA,cMA,cYA,
     cYYA,cRA,cLA,cVA,cSHA,cSSA,cSA,cHA,cLLA,cZA,bVOWEL SIGN AA,dI,dII,dU,dUU,dE,,dAI,dO,,,
     bSIGN ANUSVARA,cCANDRABINDU,cHALANTA,bVIRAMA,bPREFIXED NASAL SIGN,bMEDIAL YA,bINITIAL RA,
     bMEDIAL RA,bSIGN NUKTA,bDOUBLE DANDA,bGAP FILLER,bEND OF TEXT MARK"),
   (0x11950, "DIVES AKURU DIGIT ZERO,cONE,cTWO,cTHREE,cFOUR,cFIVE,cSIX,cSEVEN,cEIGHT,cNINE"),
   (0x119a0, "NANDINAGARI LETTER A,bAA,bI,bII,bU,bUU,bVOCALIC R,cRR,,,bE,bAI,bO,bAU,bKA,bKHA,bGA,
     bGHA,bNGA,bCA,bCHA,bJA,bJHA,bNYA,bTTA,bTTHA,bDDA,bDDHA,bNNA,bTA,bTHA,bDA,bDHA,bNA,bPA,bPHA,bBA,
     bBHA,bMA,bYA,bRA,bLA,bVA,bSHA,bSSA,bSA,bHA,bLLA,bRRA,aVOWEL SIGN AA,cI,cII,cU,cUU,cVOCALIC R,
     dRR,,,cE,cAI,cO,cAU,aSIGN ANUSVARA,bVISARGA,bVIRAMA,bAVAGRAHA,bSIDDHAM,aHEADSTROKE,
     aVOWEL SIGN PRISHTHAMATRA E"),
   (0x11a00, "ZANABAZAR SQUARE LETTER A,bVOWEL SIGN I,dUE,dU,dE,dOE,dO,dAI,dAU,dREVERSED I,
     cLENGTH MARK,bLETTER KA,cKHA,cGA,cGHA,cNGA,cCA,cCHA,cJA,cNYA,cTTA,cTTHA,cDDA,cDDHA,cNNA,cTA,
     cTHA,cDA,cDHA,cNA,cPA,cPHA,cBA,cBHA,cMA,cTSA,cTSHA,cDZA,cDZHA,cZHA,cZA,c-A,cYA,cRA,cLA,cVA,
     cSHA,cSSA,cSA,cHA,cKSSA,bFINAL CONSONANT MARK,bSIGN VIRAMA,cCANDRABINDU,dWITH ORNAMENT,
     cCANDRA WITH ORNAMENT,cANUSVARA,cVISARGA,bCLUSTER-INITIAL LETTER RA,bCLUSTER-FINAL LETTER YA,
     dRA,dLA,dVA,bINITIAL HEAD MARK,bCLOSING HEAD MARK,bMARK TSHEG,cSHAD,cDOUBLE SHAD,cLONG TSHEG,
     bINITIAL DOUBLE-LINED HEAD MARK,bCLOSING DOUBLE-LINED HEAD MARK,bSUBJOINER,,,,,,,,,
     SOYOMBO LETTER A,aVOWEL SIGN I,cUE,cU,cE,cO,cOE,cAI,cAU,cVOCALIC R,dL,bLENGTH MARK,aLETTER KA,
     bKHA,bGA,bGHA,bNGA,bCA,bCHA,bJA,bJHA,bNYA,bTTA,bTTHA,bDDA,bDDHA,bNNA,bTA,bTHA,bDA,bDHA,bNA,bPA,
     bPHA,bBA,bBHA,bMA,bTSA,bTSHA,bDZA,bZHA,bZA,b-A,bYA,bRA,bLA,bVA,bSHA,bSSA,bSA,bHA,bKSSA,
     aSIGN JIHVAMULIYA,bUPADHMANIYA,aCLUSTER-INITIAL LETTER RA,cLA,cSHA,cSA,aFINAL CONSONANT SIGN G,
     dK,dNG,dD,dN,dB,dM,dR,dL,dSH,dS,d-A,aSIGN ANUSVARA,bVISARGA,aGEMINATION MARK,aSUBJOINER,
     aMARK TSHEG,bSHAD,bDOUBLE SHAD,bPLUTA,aHEAD MARK WITH MOON AND SUN AND TRIPLE FLAME,hFLAME,
     fSUN,aTERMINAL MARK-1,bMARK-2"),
   (0x11ab0, "CANADIAN SYLLABICS NATTILIK HI,cHII,cHO,cHOO,cHA,cHAA,cSHRI,cSHRII,cSHRO,cSHROO,cSHRA,
     cSHRAA,bSPE,bSPI,bSPO,bSPA,PAU CIN HAU LETTER PA,dKA,dLA,dMA,dDA,dZA,dVA,dNGA,dHA,dGA,dKHA,dSA,
     dBA,dCA,dTA,dTHA,dNA,dPHA,dRA,dFA,dCHA,dA,dE,dI,dO,dU,dUA,dIA,dFINAL P,eK,eT,eM,eN,eL,eW,eNG,
     eY,cRISING TONE LONG,dTONE,cSANDHI GLOTTAL STOP,cRISING TONE LONG FINAL,eFINAL,
     cSANDHI GLOTTAL STOP FINAL,dTONE LONG,dTONE,eLONG FINAL,eFINAL,cMID-LEVEL TONE,
     cGLOTTAL STOP VARIANT,cMID-LEVEL TONE LONG FINAL,eFINAL,cLOW-FALLING TONE LONG,dTONE,
     cGLOTTAL STOP,cLOW-FALLING TONE LONG FINAL,eFINAL,cGLOTTAL STOP FINAL"),
   (0x11c00, "BHAIKSUKI LETTER A,bAA,bI,bII,bU,bUU,bVOCALIC R,cRR,cL,,bE,bAI,bO,bAU,bKA,bKHA,bGA,
     bGHA,bNGA,bCA,bCHA,bJA,bJHA,bNYA,bTTA,bTTHA,bDDA,bDDHA,bNNA,bTA,bTHA,bDA,bDHA,bNA,bPA,bPHA,bBA,
     bBHA,bMA,bYA,bRA,bLA,bVA,bSHA,bSSA,bSA,bHA,aVOWEL SIGN AA,cI,cII,cU,cUU,cVOCALIC R,dRR,dL,,cE,
     cAI,cO,cAU,aSIGN CANDRABINDU,bANUSVARA,bVISARGA,bVIRAMA,bAVAGRAHA,aDANDA,aDOUBLE DANDA,
     aWORD SEPARATOR,aGAP FILLER-1,bFILLER-2"),
   (0x11c50, "BHAIKSUKI DIGIT ZERO,bONE,bTWO,bTHREE,bFOUR,bFIVE,bSIX,bSEVEN,bEIGHT,bNINE,
     aNUMBER ONE,bTWO,bTHREE,bFOUR,bFIVE,bSIX,bSEVEN,bEIGHT,bNINE,bTEN,bTWENTY,bTHIRTY,bFORTY,
     bFIFTY,bSIXTY,bSEVENTY,bEIGHTY,bNINETY,aHUNDREDS UNIT MARK,,,,MARCHEN HEAD MARK,aMARK SHAD,
     aLETTER KA,bKHA,bGA,bNGA,bCA,bCHA,bJA,bNYA,bTA,bTHA,bDA,bNA,bPA,bPHA,bBA,bMA,bTSA,bTSHA,bDZA,
     bWA,bZHA,bZA,b-A,bYA,bRA,bLA,bSHA,bSA,bHA,bA,,,aSUBJOINED LETTER KA,cKHA,cGA,cNGA,cCA,cCHA,cJA,
     cNYA,cTA,cTHA,cDA,cNA,cPA,cPHA,cBA,cMA,cTSA,cTSHA,cDZA,cWA,cZHA,cZA,,cYA,cRA,cLA,cSHA,cSA,cHA,
     cA,aVOWEL SIGN AA,cI,cU,cE,cO,aSIGN ANUSVARA,bCANDRABINDU"),
   (0x11d00, "MASARAM GONDI LETTER A,cAA,cI,cII,cU,cUU,cE,,cAI,cO,,cAU,cKA,cKHA,cGA,cGHA,cNGA,cCA,
     cCHA,cJA,cJHA,cNYA,cTTA,cTTHA,cDDA,cDDHA,cNNA,cTA,cTHA,cDA,cDHA,cNA,cPA,cPHA,cBA,cBHA,cMA,cYA,
     cRA,cLA,cVA,cSHA,cSSA,cSA,cHA,cLLA,cKSSA,cJNYA,cTRA,bVOWEL SIGN AA,dI,dII,dU,dUU,dVOCALIC R,,,,
     dE,,dAI,dO,,dAU,bSIGN ANUSVARA,cVISARGA,cNUKTA,cCANDRA,cHALANTA,bVIRAMA,bREPHA,bRA-KARA,,,,,,,,
     ,bDIGIT ZERO,cONE,cTWO,cTHREE,cFOUR,cFIVE,cSIX,cSEVEN,cEIGHT,cNINE,,,,,,,
     GUNJALA GONDI LETTER A,cAA,cI,cII,cU,cUU,,cEE,cAI,,cOO,cAU,cYA,cVA,cBA,cBHA,cMA,cKA,cKHA,cTA,
     cTHA,cLA,cGA,cGHA,cDA,cDHA,cNA,cCA,cCHA,cTTA,cTTHA,cLLA,cJA,cJHA,cDDA,cDDHA,cNGA,cPA,cPHA,cHA,
     cRA,cSA,bVOWEL SIGN AA,dI,dII,dU,dUU,,dEE,dAI,,dOO,dAU,bSIGN ANUSVARA,cVISARGA,bVIRAMA,bOM,,,,,
     ,,,bDIGIT ZERO,cONE,cTWO,cTHREE,cFOUR,cFIVE,cSIX,cSEVEN,cEIGHT,cNINE"),
   (0x11ee0, "MAKASAR LETTER KA,bGA,bNGA,bPA,bBA,bMA,bTA,bDA,bNA,bCA,bJA,bNYA,bYA,bRA,bLA,bVA,bSA,
     bA,aANGKA,aVOWEL SIGN I,cU,cE,cO,aPASSIMBANG,aEND OF SECTION"),
   (0x11fb0, "LISU LETTER YHA"),
   (0x11fc0, "TAMIL FRACTION ONE THREE-HUNDRED-AND-TWENTIETH,cONE-HUNDRED-AND-SIXTIETH,cEIGHTIETH,
     cSIXTY-FOURTH,cFORTIETH,cTHIRTY-SECOND,bTHREE EIGHTIETHS,cSIXTY-FOURTHS,bONE TWENTIETH,
     cSIXTEENTH-1,cSIXTEENTH-2,cTENTH,cEIGHTH,bTHREE TWENTIETHS,cSIXTEENTHS,bONE FIFTH,cQUARTER,
     cHALF-1,cHALF-2,bTHREE QUARTERS,bDOWNSCALING FACTOR KIIZH,aSIGN NEL,bCEVITU,bAAZHAAKKU,
     bUZHAKKU,bMUUVUZHAKKU,bKURUNI,bPATHAKKU,bMUKKURUNI,bKAACU,bPANAM,bPON,bVARAAKAN,bPAARAM,bKUZHI,
     bVELI,aWET CULTIVATION SIGN,aDRY CULTIVATION SIGN,aLAND SIGN,aSALT PAN SIGN,
     aTRADITIONAL CREDIT SIGN,bNUMBER SIGN,aCURRENT SIGN,aAND ODD SIGN,aSPENT SIGN,aTOTAL SIGN,
     aIN POSSESSION SIGN,aSTARTING FROM SIGN,aSIGN MUTHALIYA,bVAKAIYARAA"),
   (0x11fff, "TAMIL PUNCTUATION END OF TEXT,CUNEIFORM SIGN A,cTIMES A,dBAD,dGAN2 TENU,dHA,dIGI,
     dLAGAR GUNU,dMUSH,dSAG,bA2,bAB,cTIMES ASH2,dDUN3 GUNU,dGAL,dGAN2 TENU,dHA,dIGI GUNU,dIMIN,
     dLAGAB,dSHESH,dU PLUS U PLUS U,cGUNU,bAB2,cTIMES BALAG,dGAN2 TENU,dME PLUS EN,dSHA3,dTAK4,bAD,
     bAK,cTIMES ERIN2,dSHITA PLUS GISH,bAL,cTIMES AL,dDIM2,dGISH,dHA,dKAD3,dKI,dSHE,dUSH,bALAN,
     bALEPH,bAMAR,cTIMES SHE,bAN,cOVER AN,cTHREE TIMES,cPLUS NAGA OPPOSING AN PLUS NAGA,eSQUARED,
     bANSHE,bAPIN,bARAD,cTIMES KUR,bARKAB,bASAL2,bASH,cZIDA TENU,cKABA TENU,
     cOVER ASH TUG2 OVER TUG2 TUG2 OVER TUG2 PAP,eOVER ASH,gCROSSING ASH OVER ASH OVER ASH,bASH2,
     bASHGAB,bBA,bBAD,bBAG3,bBAHAR2,bBAL,cOVER BAL,bBALAG,bBAR,bBARA2,bBI,cTIMES A,dGAR,dIGI GUNU,
     bBU,cOVER BU AB,eUN,cCROSSING BU,bBULUG,cOVER BULUG,bBUR,bBUR2,bDA,bDAG,
     cKISIM5 TIMES A PLUS MASH,eAMAR,eBALAG,eBI,eGA,fPLUS MASH,eGI,eGIR2,eGUD,eHA,eIR,fPLUS LU,eKAK,
     eLA,eLU,fPLUS MASH2,eLUM,eNE,ePAP PLUS PAP,eSI,eTAK4,eU2 PLUS GIR2,eUSH,bDAM,bDAR,bDARA3,
     bDARA4,bDI,bDIB,bDIM,cTIMES SHE,bDIM2,bDIN,cKASKAL U GUNU DISH,bDISH,bDU,cOVER DU,cGUNU,
     cSHESHIG,bDUB,cTIMES ESH2,bDUB2,bDUG,bDUGUD,bDUH,bDUN,bDUN3,cGUNU,dGUNU,bDUN4,bDUR2,bE,
     cTIMES PAP,cOVER E NUN OVER NUN,bE2,cTIMES A PLUS HA PLUS DA,dGAR,dMI,dSAL,dSHE,dU,bEDIN,bEGIR,
     bEL,bEN,cTIMES GAN2,eTENU,dME,cCROSSING EN,cOPPOSING EN,cSQUARED,bEREN,bERIN2,bESH2,bEZEN,
     cTIMES A,ePLUS LAL,gTIMES LAL,dAN,dBAD,dDUN3 GUNU,fGUNU,dHA,eGUNU,dIGI GUNU,dKASKAL,eSQUARED,
     dKU3,dLA,dLAL TIMES LAL,dLI,dLU,dU2,dUD,bGA,cGUNU,bGA2,cTIMES A PLUS DA PLUS HA,fHA,fIGI,
     dAB2 TENU PLUS TAB,dAN,dASH,dASH2 PLUS GAL,dBAD,dBAR PLUS RA,dBUR,ePLUS RA,dDA,dDI,
     dDIM TIMES SHE,dDUB,dEL,ePLUS LA,dEN,eTIMES GAN2 TENU,dGAN2 TENU,dGAR,dGI,dGI4,ePLUS A,
     dGIR2 PLUS SU,dHA PLUS LU PLUS ESH2,dHAL,ePLUS LA,dHI PLUS LI,dHUB2,dIGI GUNU,
     dISH PLUS HU PLUS ASH,dKAK,dKASKAL,dKID,ePLUS LAL,dKU3 PLUS AN,dLA,dME PLUS EN,dMI,dNUN,
     eOVER NUN,dPA,dSAL,dSAR,dSHE,ePLUS TUR,dSHID,dSUM,dTAK4,dU,dUD,ePLUS DU,cOVER GA2,bGABA,
     cCROSSING GABA,bGAD,cOVER GAD GAR OVER GAR,bGAL,cGAD OVER GAD GAR OVER GAR,bGALAM,bGAM,bGAN,
     bGAN2,cTENU,cOVER GAN2,cCROSSING GAN2,bGAR,bGAR3,bGASHAN,bGESHTIN,cTIMES KUR,bGI,cTIMES E,dU,
     cCROSSING GI,bGI4,cOVER GI4,cCROSSING GI4,bGIDIM,bGIR2,cGUNU,bGIR3,cTIMES A PLUS IGI,
     dGAN2 TENU,dIGI,dLU PLUS IGI,dPA,bGISAL,bGISH,cCROSSING GISH,cTIMES BAD,dTAK4,cTENU,bGU,
     cCROSSING GU,bGU2,cTIMES KAK,eTIMES IGI GUNU,dNUN,dSAL PLUS TUG2,cGUNU,bGUD,cTIMES A PLUS KUR,
     dKUR,cOVER GUD LUGAL,bGUL,bGUM,cTIMES SHE,bGUR,bGUR7,bGURUN,bGURUSH,bHA,cTENU,cGUNU,bHAL,bHI,
     cTIMES ASH,dASH2,dBAD,dDISH,dGAD,dKIN,dNUN,dSHE,dU,bHU,bHUB2,cTIMES AN,dHAL,dKASKAL,dLISH,dUD,
     bHUL2,bI,cA,bIB,bIDIM,cOVER IDIM BUR,eSQUARED,bIG,bIGI,cDIB,cRI,
     cOVER IGI SHIR OVER SHIR UD OVER UD,cGUNU,bIL,cTIMES GAN2 TENU,bIL2,bIM,cTIMES TAK4,
     cCROSSING IM,cOPPOSING IM,cSQUARED,bIMIN,bIN,bIR,bISH,bKA,cTIMES A,dAD,ePLUS KU3,dASH2,dBAD,
     dBALAG,dBAR,dBI,dERIN2,dESH2,dGA,dGAL,dGAN2 TENU,dGAR,ePLUS SHA3 PLUS A,dGI,dGIR2,
     dGISH PLUS SAR,eCROSSING GISH,dGU,dGUR7,dIGI,dIM,dKAK,dKI,dKID,dLI,dLU,dME,ePLUS DU,fGI,fTE,
     dMI,ePLUS NUNUZ,dNE,dNUN,dPI,dRU,dSA,dSAR,dSHA,dSHE,dSHID,dSHU,dSIG,dSUHUR,dTAR,dU,dU2,dUD,
     dUMUM TIMES PA,dUSH,dZI,bKA2,cCROSSING KA2,bKAB,bKAD2,bKAD3,bKAD4,bKAD5,cOVER KAD5,bKAK,
     cTIMES IGI GUNU,bKAL,cTIMES BAD,cCROSSING KAL,bKAM2,bKAM4,bKASKAL,
     cLAGAB TIMES U OVER LAGAB TIMES U,cOVER KASKAL LAGAB TIMES U OVER LAGAB TIMES U,bKESH2,bKI,
     cTIMES BAD,dU,dUD,bKID,bKIN,bKISAL,bKISH,bKISIM5,cOVER KISIM5,bKU,
     cOVER HI TIMES ASH2 KU OVER HI TIMES ASH2,bKU3,bKU4,cVARIANT FORM,bKU7,bKUL,cGUNU,bKUN,bKUR,
     cOPPOSING KUR,bKUSHU2,bKWU318,bLA,bLAGAB,cTIMES A,ePLUS DA PLUS HA,fGAR,fLAL,dAL,dAN,
     dASH ZIDA TENU,dBAD,dBI,dDAR,dEN,dGA,dGAR,dGUD,ePLUS GUD,dHA,dHAL,dHI TIMES NUN,dIGI GUNU,dIM,
     ePLUS HA,fLU,dKI,dKIN,dKU3,dKUL,ePLUS HI PLUS A,dLAGAB,dLISH,dLU,dLUL,dME,ePLUS EN,dMUSH,dNE,
     dSHE PLUS SUM,dSHITA PLUS GISH PLUS ERIN2,gTENU,dSHU2,ePLUS SHU2,dSUM,dTAG,dTAK4,
     dTE PLUS A PLUS SU PLUS NA,dU,ePLUS A,fU PLUS U,dU2 PLUS ASH,dUD,dUSH,cSQUARED,bLAGAR,
     cTIMES SHE,ePLUS SUM,cGUNU,dOVER LAGAR GUNU SHE,bLAHSHU,bLAL,cTIMES LAL,bLAM,cTIMES KUR,
     ePLUS RU,bLI,bLIL,bLIMMU2,bLISH,bLU,cTIMES BAD,bLU2,cTIMES AL,dBAD,dESH2,eTENU,dGAN2 TENU,
     dHI TIMES BAD,dIM,dKAD2,dKAD3,ePLUS ASH,dKI,dLA PLUS ASH,dLAGAB,dME PLUS EN,dNE,dNU,
     dSI PLUS ASH,dSIK2 PLUS BU,dTUG2,cTENU,cCROSSING LU2,cOPPOSING LU2,cSQUARED,cSHESHIG,bLU3,
     bLUGAL,cOVER LUGAL,cOPPOSING LUGAL,cSHESHIG,bLUH,bLUL,bLUM,cOVER LUM,eGAR OVER GAR,bMA,
     cTIMES TAK4,cGUNU,bMA2,bMAH,bMAR,bMASH,bMASH2,bME,bMES,bMI,bMIN,bMU,cOVER MU,bMUG,cGUNU,
     bMUNSUB,bMURGU2,bMUSH,cTIMES A,dKUR,dZA,cOVER MUSH,eTIMES A PLUS NA,cCROSSING MUSH,bMUSH3,
     cTIMES A,ePLUS DI,dDI,cGUNU,bNA,bNA2,bNAGA,cINVERTED,cTIMES SHU TENU,cOPPOSING NAGA,bNAGAR,
     bNAM NUTILLU,bNAM,bNAM2,bNE,cTIMES A,dUD,cSHESHIG,bNI,cTIMES E,bNI2,bNIM,cTIMES GAN2 TENU,
     dGAR PLUS GAN2 TENU,bNINDA2,cTIMES AN,dASH,ePLUS ASH,dGUD,dME PLUS GAN2 TENU,dNE,dNUN,dSHE,
     ePLUS A AN,fASH,gPLUS ASH,dU2 PLUS ASH,dUSH,bNISAG,bNU,bNU11,bNUN,cLAGAR TIMES GAR,eMASH,eSAL,
     fOVER NUN LAGAR TIMES SAL,eUSH,cTENU,cOVER NUN,cCROSSING NUN,eLAGAR OVER LAGAR,bNUNUZ,
     cAB2 TIMES ASHGAB,eBI,eDUG,eGUD,eIGI GUNU,eKAD3,eLA,eNE,eSILA3,eU2,cKISIM5 TIMES BI,fU,bPA,
     bPAD,bPAN,bPAP,bPESH2,bPI,cTIMES A,dAB,dBI,dBU,dE,dI,dIB,dU,dU2,cCROSSING PI,bPIRIG,cTIMES KAL,
     dUD,dZA,cOPPOSING PIRIG,bRA,bRAB,bRI,bRU,bSA,bSAG NUTILLU,bSAG,cTIMES A,dDU,dDUB,dHA,dKAK,dKUR,
     dLUM,dMI,dNUN,dSAL,dSHID,dTAB,dU2,dUB,dUM,dUR,dUSH,cOVER SAG,cGUNU,bSAL,cLAGAB TIMES ASH2,
     bSANGA2,bSAR,bSHA,bSHA3,cTIMES A,dBAD,dGISH,dNE,dSHU2,dTUR,dU,ePLUS A,bSHA6,bSHAB6,bSHAR2,bSHE,
     cHU,cOVER SHE GAD OVER GAD GAR OVER GAR,eTAB OVER TAB GAR OVER GAR,bSHEG9,bSHEN,bSHESH,bSHESH2,
     bSHESHLAM,bSHID,cTIMES A,dIM,bSHIM,cTIMES A,dBAL,dBULUG,dDIN,dGAR,dIGI,eGUNU,dKUSHU2,dLUL,dMUG,
     dSAL,bSHINIG,bSHIR,cTENU,cOVER SHIR BUR OVER BUR,bSHITA,bSHU,cOVER INVERTED SHU,bSHU2,bSHUBUR,
     bSI,cGUNU,bSIG,bSIG4,cOVER SIG4 SHU2,bSIK2,bSILA3,bSU,cOVER SU,bSUD,bSUD2,bSUHUR,bSUM,bSUMASH,
     bSUR,bSUR9,bTA,cASTERISK,cTIMES HI,dMI,cGUNU,bTAB,cOVER TAB NI OVER NI DISH OVER DISH,cSQUARED,
     bTAG,cTIMES BI,dGUD,dSHE,dSHU,dTUG2,dUD,bTAK4,bTAR,bTE,cGUNU,bTI,cTENU,bTIL,bTIR,cTIMES TAK4,
     cOVER TIR,eGAD OVER GAD GAR OVER GAR,bTU,bTUG2,bTUK,bTUM,bTUR,cOVER TUR ZA OVER ZA,bU,cGUD,
     cU U,cOVER U PA OVER PA GAR OVER GAR,eSUR OVER SUR,eU REVERSED OVER U REVERSED,bU2,bUB,bUD,
     cKUSHU2,cTIMES BAD,dMI,dU PLUS U PLUS U,iGUNU,cGUNU,cSHESHIG,dTIMES BAD,bUDUG,bUM,cTIMES LAGAB,
     dME PLUS DA,dSHA3,dU,bUMBIN,bUMUM,cTIMES KASKAL,dPA,bUN,cGUNU,bUR,cCROSSING UR,cSHESHIG,bUR2,
     cTIMES A PLUS HA,fNA,dAL,dHA,dNUN,dU2,ePLUS ASH,fBI,bUR4,bURI,bURI3,bURU,cTIMES A,dASHGAB,dBAR,
     dDUN,dGA,dGAL,dGAN2 TENU,dGAR,dGU,dHA,dIGI,dIM,dISH,dKI,dLUM,dMIN,dPA,dSHE,dSIG4,dTU,
     dU PLUS GUD,dUD,dURUDA,bURUDA,cTIMES U,bUSH,cTIMES A,dKU,dKUR,dTAK4,bUSHX,bUSH2,bUSHUMX,bUTUKI,
     bUZ3,cTIMES KASKAL,bUZU,bZA,cTENU,cSQUARED TIMES KUR,bZAG,bZAMX,bZE2,bZI,cOVER ZI,bZI3,bZIB,
     cKABA TENU,bZIG,bZIZ2,bZU,bZU5,cTIMES A,bZUBUR,bZUM,bKAP ELAMITE,bAB TIMES NUN,bAB2 TIMES A,
     bAMAR TIMES KUG,bDAG KISIM5 TIMES U2 PLUS MASH,bDAG3,bDISH PLUS SHU,bDUB TIMES SHE,
     bEZEN TIMES GUD,dSHE,bGA2 TIMES AN PLUS KAK PLUS A,dASH2,bGE22,bGIG,bHUSH,bKA TIMES ANSHE,
     dASH3,dGISH,dGUD,dHI TIMES ASH2,dLUM,dPA,dSHUL,dTU,dUR2,bLAGAB TIMES GI,bLU2 SHESHIG TIMES BAD,
     cTIMES ESH2 PLUS LAL,dSHU,bMESH,bMUSH3 TIMES ZA,bNA4,bNIN,bNIN9,bNINDA2 TIMES BAL,dGI,
     bNU11 ROTATED NINETY DEGREES,bPESH2 ASTERISK,bPIR2,bSAG TIMES IGI GUNU,bTI2,bUM TIMES ME,
     bU U"),
   (0x12400, "CUNEIFORM NUMERIC SIGN TWO ASH,cTHREE ASH,cFOUR ASH,cFIVE ASH,cSIX ASH,cSEVEN ASH,
     cEIGHT ASH,cNINE ASH,cTHREE DISH,cFOUR DISH,cFIVE DISH,cSIX DISH,cSEVEN DISH,cEIGHT DISH,
     cNINE DISH,cFOUR U,cFIVE U,cSIX U,cSEVEN U,cEIGHT U,cNINE U,cONE GESH2,cTWO GESH2,cTHREE GESH2,
     cFOUR GESH2,cFIVE GESH2,cSIX GESH2,cSEVEN GESH2,cEIGHT GESH2,cNINE GESH2,cONE GESHU,cTWO GESHU,
     cTHREE GESHU,cFOUR GESHU,cFIVE GESHU,cTWO SHAR2,cTHREE SHAR2,eVARIANT FORM,cFOUR SHAR2,
     cFIVE SHAR2,cSIX SHAR2,cSEVEN SHAR2,cEIGHT SHAR2,cNINE SHAR2,cONE SHARU,cTWO SHARU,
     cTHREE SHARU,eVARIANT FORM,cFOUR SHARU,cFIVE SHARU,cSHAR2 TIMES GAL PLUS DISH,gMIN,cONE BURU,
     cTWO BURU,cTHREE BURU,eVARIANT FORM,cFOUR BURU,cFIVE BURU,cTHREE VARIANT FORM ESH16,fESH21,
     cFOUR VARIANT FORM LIMMU,fLIMMU4,fLIMMU A,gB,cSIX VARIANT FORM ASH9,cSEVEN VARIANT FORM IMIN3,
     fIMIN A,gB,cEIGHT VARIANT FORM USSU,fUSSU3,cNINE VARIANT FORM ILIMMU,fILIMMU3,fILIMMU4,
     fILIMMU A,cTWO ASH TENU,cTHREE ASH TENU,cFOUR ASH TENU,cFIVE ASH TENU,cSIX ASH TENU,cONE BAN2,
     cTWO BAN2,cTHREE BAN2,cFOUR BAN2,eVARIANT FORM,cFIVE BAN2,eVARIANT FORM,cNIGIDAMIN,cNIGIDAESH,
     cONE ESHE3,cTWO ESHE3,cONE THIRD DISH,cTWO THIRDS DISH,cFIVE SIXTHS DISH,
     cONE THIRD VARIANT FORM A,cTWO THIRDS VARIANT FORM A,cONE EIGHTH ASH,dQUARTER ASH,
     cOLD ASSYRIAN ONE SIXTH,fQUARTER,cONE QUARTER GUR,dHALF GUR,cELAMITE ONE THIRD,dTWO THIRDS,
     dFORTY,dFIFTY,cFOUR U VARIANT FORM,cFIVE U VARIANT FORM,cSIX U VARIANT FORM,
     cSEVEN U VARIANT FORM,cEIGHT U VARIANT FORM,cNINE U VARIANT FORM,,
     aPUNCTUATION SIGN OLD ASSYRIAN WORD DIVIDER,cVERTICAL COLON,cDIAGONAL COLON,dTRICOLON,
     dQUADCOLON"),
   (0x12480, "CUNEIFORM SIGN AB TIMES NUN TENU,dSHU2,bAD TIMES ESH2,bBAD TIMES DISH TENU,
     bBAHAR2 TIMES AB2,dNI,dZA,bBU OVER BU TIMES NA2,bDA TIMES TAK4,bDAG TIMES KUR,bDIM TIMES IGI,
     dU U U,bDIM2 TIMES UD,bDUG TIMES ANSHE,dASH,eAT LEFT,dDIN,dDUN,dERIN2,dGA,dGI,dGIR2 GUNU,dGISH,
     dHA,dHI,dIGI GUNU,dKASKAL,dKUR,dKUSHU2,ePLUS KASKAL,dLAK-020,dLAM,eTIMES KUR,dLUH PLUS GISH,
     dMASH,dMES,dMI,dNI,dPI,dSHE,dSI GUNU,bE2 TIMES KUR,dPAP,bERIN2 X,bESH2 CROSSING ESH2,
     bEZEN SHESHIG TIMES ASH,eHI,eIGI GUNU,eLA,eLAL,eME,eMES,eSU,cTIMES SU,bGA2 TIMES BAHAR2,
     dDIM GUNU,dDUG TIMES IGI GUNU,fKASKAL,dEREN,dGA,dGAR PLUS DI,fNE,dHA PLUS A,
     dKUSHU2 PLUS KASKAL,dLAM,eTIMES KUR,dLUH,dMUSH,dNE,ePLUS E2,fGI,dSHIM,dZIZ2,
     bGABA ROTATED NINETY DEGREES,bGESHTIN TIMES U,bGISH TIMES GISH CROSSING GISH,
     bGU2 TIMES IGI GUNU,bGUD PLUS GISH TIMES TAK4,bHA TENU GUNU,bHI TIMES ASH OVER HI TIMES ASH,
     bKA TIMES BU,dKA,dU U U,dUR,bLAGAB TIMES ZU OVER ZU,bLAK-003,bLAK-021,bLAK-025,bLAK-030,
     bLAK-050,bLAK-051,bLAK-062,bLAK-079 OVER LAK-079 GUNU,bLAK-080,bLAK-081 OVER LAK-081,bLAK-092,
     bLAK-130,bLAK-142,bLAK-210,bLAK-219,bLAK-220,bLAK-225,bLAK-228,bLAK-238,bLAK-265,bLAK-266,
     bLAK-343,bLAK-347,bLAK-348,bLAK-383,bLAK-384,bLAK-390,bLAK-441,bLAK-449,cTIMES GU,dIGI,
     dPAP PLUS LU3,fPAP PLUS LU3,dU2 PLUS BA,bLAK-450,bLAK-457,bLAK-470,bLAK-483,bLAK-490,bLAK-492,
     bLAK-493,bLAK-495,bLAK-550,bLAK-608,bLAK-617,cTIMES ASH,dBAD,dDUN3 GUNU GUNU,dKU3,dLA,dTAR,dTE,
     dU2,dUD,dURUDA,bLAK-636,bLAK-648,cTIMES DUB,dGA,dIGI,eGUNU,dNI,dPAP PLUS PAP PLUS LU3,
     dSHESH PLUS KI,dUD,dURUDA,bLAK-724,bLAK-749,bLU2 GUNU TIMES ASH,cTIMES DISH,dHAL,dPAP,
     ePLUS PAP PLUS LU3,dTAK4,bMI PLUS ZA7,bMUSH OVER MUSH TIMES GA,fKAK,bNINDA2 TIMES DIM GUNU,
     dGISH,dGUL,dHI,dKESH2,dLAK-050,dMASH,dPAP PLUS PAP,dU,ePLUS U,dURUDA,bSAG GUNU TIMES HA,
     cTIMES EN,dSHE AT LEFT,dTAK4,bSHA6 TENU,bSHE OVER SHE,cPLUS HUB2,dNAM2,dSAR,
     bSHU2 PLUS DUG TIMES NI,dE2 TIMES AN,bSI TIMES TAK4,bTAK4 PLUS SAG,bTUM TIMES GAN2 TENU,
     dTHREE DISH,bUR2 INVERTED,cTIMES UD,bURU TIMES DARA3,dLAK-668,dLU3,bZA7,bZU OVER ZU PLUS SAR,
     bZU5 TIMES THREE DISH TENU"),
   (0x12f90, "CYPRO-MINOAN SIGN CM001,bCM002,bCM004,bCM005,bCM006,bCM007,bCM008,bCM009,bCM010,
     bCM011,bCM012,bCM012B,bCM013,bCM015,bCM017,bCM019,bCM021,bCM023,bCM024,bCM025,bCM026,bCM027,
     bCM028,bCM029,bCM030,bCM033,bCM034,bCM035,bCM036,bCM037,bCM038,bCM039,bCM040,bCM041,bCM044,
     bCM046,bCM047,bCM049,bCM050,bCM051,bCM052,bCM053,bCM054,bCM055,bCM056,bCM058,bCM059,bCM060,
     bCM061,bCM062,bCM063,bCM064,bCM066,bCM067,bCM068,bCM069,bCM070,bCM071,bCM072,bCM073,bCM074,
     bCM075,bCM075B,bCM076,bCM078,bCM079,bCM080,bCM081,bCM082,bCM083,bCM084,bCM085,bCM086,bCM087,
     bCM088,bCM089,bCM090,bCM091,bCM092,bCM094,bCM095,bCM096,bCM097,bCM098,bCM099,bCM100,bCM101,
     bCM102,bCM103,bCM104,bCM105,bCM107,bCM108,bCM109,bCM110,bCM112,bCM114,bCM301,bCM302"),
   (0x13000, "EGYPTIAN HIEROGLYPH A001,bA002,bA003,bA004,bA005,bA005A,bA006,bA006A,bA006B,bA007,
     bA008,bA009,bA010,bA011,bA012,bA013,bA014,bA014A,bA015,bA016,bA017,bA017A,bA018,bA019,bA020,
     bA021,bA022,bA023,bA024,bA025,bA026,bA027,bA028,bA029,bA030,bA031,bA032,bA032A,bA033,bA034,
     bA035,bA036,bA037,bA038,bA039,bA040,bA040A,bA041,bA042,bA042A,bA043,bA043A,bA044,bA045,bA045A,
     bA046,bA047,bA048,bA049,bA050,bA051,bA052,bA053,bA054,bA055,bA056,bA057,bA058,bA059,bA060,
     bA061,bA062,bA063,bA064,bA065,bA066,bA067,bA068,bA069,bA070,bB001,bB002,bB003,bB004,bB005,
     bB005A,bB006,bB007,bB008,bB009,bC001,bC002,bC002A,bC002B,bC002C,bC003,bC004,bC005,bC006,bC007,
     bC008,bC009,bC010,bC010A,bC011,bC012,bC013,bC014,bC015,bC016,bC017,bC018,bC019,bC020,bC021,
     bC022,bC023,bC024,bD001,bD002,bD003,bD004,bD005,bD006,bD007,bD008,bD008A,bD009,bD010,bD011,
     bD012,bD013,bD014,bD015,bD016,bD017,bD018,bD019,bD020,bD021,bD022,bD023,bD024,bD025,bD026,
     bD027,bD027A,bD028,bD029,bD030,bD031,bD031A,bD032,bD033,bD034,bD034A,bD035,bD036,bD037,bD038,
     bD039,bD040,bD041,bD042,bD043,bD044,bD045,bD046,bD046A,bD047,bD048,bD048A,bD049,bD050,bD050A,
     bD050B,bD050C,bD050D,bD050E,bD050F,bD050G,bD050H,bD050I,bD051,bD052,bD052A,bD053,bD054,bD054A,
     bD055,bD056,bD057,bD058,bD059,bD060,bD061,bD062,bD063,bD064,bD065,bD066,bD067,bD067A,bD067B,
     bD067C,bD067D,bD067E,bD067F,bD067G,bD067H,bE001,bE002,bE003,bE004,bE005,bE006,bE007,bE008,
     bE008A,bE009,bE009A,bE010,bE011,bE012,bE013,bE014,bE015,bE016,bE016A,bE017,bE017A,bE018,bE019,
     bE020,bE020A,bE021,bE022,bE023,bE024,bE025,bE026,bE027,bE028,bE028A,bE029,bE030,bE031,bE032,
     bE033,bE034,bE034A,bE036,bE037,bE038,bF001,bF001A,bF002,bF003,bF004,bF005,bF006,bF007,bF008,
     bF009,bF010,bF011,bF012,bF013,bF013A,bF014,bF015,bF016,bF017,bF018,bF019,bF020,bF021,bF021A,
     bF022,bF023,bF024,bF025,bF026,bF027,bF028,bF029,bF030,bF031,bF031A,bF032,bF033,bF034,bF035,
     bF036,bF037,bF037A,bF038,bF038A,bF039,bF040,bF041,bF042,bF043,bF044,bF045,bF045A,bF046,bF046A,
     bF047,bF047A,bF048,bF049,bF050,bF051,bF051A,bF051B,bF051C,bF052,bF053,bG001,bG002,bG003,bG004,
     bG005,bG006,bG006A,bG007,bG007A,bG007B,bG008,bG009,bG010,bG011,bG011A,bG012,bG013,bG014,bG015,
     bG016,bG017,bG018,bG019,bG020,bG020A,bG021,bG022,bG023,bG024,bG025,bG026,bG026A,bG027,bG028,
     bG029,bG030,bG031,bG032,bG033,bG034,bG035,bG036,bG036A,bG037,bG037A,bG038,bG039,bG040,bG041,
     bG042,bG043,bG043A,bG044,bG045,bG045A,bG046,bG047,bG048,bG049,bG050,bG051,bG052,bG053,bG054,
     bH001,bH002,bH003,bH004,bH005,bH006,bH006A,bH007,bH008,bI001,bI002,bI003,bI004,bI005,bI005A,
     bI006,bI007,bI008,bI009,bI009A,bI010,bI010A,bI011,bI011A,bI012,bI013,bI014,bI015,bK001,bK002,
     bK003,bK004,bK005,bK006,bK007,bK008,bL001,bL002,bL002A,bL003,bL004,bL005,bL006,bL006A,bL007,
     bL008,bM001,bM001A,bM001B,bM002,bM003,bM003A,bM004,bM005,bM006,bM007,bM008,bM009,bM010,bM010A,
     bM011,bM012,bM012A,bM012B,bM012C,bM012D,bM012E,bM012F,bM012G,bM012H,bM013,bM014,bM015,bM015A,
     bM016,bM016A,bM017,bM017A,bM018,bM019,bM020,bM021,bM022,bM022A,bM023,bM024,bM024A,bM025,bM026,
     bM027,bM028,bM028A,bM029,bM030,bM031,bM031A,bM032,bM033,bM033A,bM033B,bM034,bM035,bM036,bM037,
     bM038,bM039,bM040,bM040A,bM041,bM042,bM043,bM044,bN001,bN002,bN003,bN004,bN005,bN006,bN007,
     bN008,bN009,bN010,bN011,bN012,bN013,bN014,bN015,bN016,bN017,bN018,bN018A,bN018B,bN019,bN020,
     bN021,bN022,bN023,bN024,bN025,bN025A,bN026,bN027,bN028,bN029,bN030,bN031,bN032,bN033,bN033A,
     bN034,bN034A,bN035,bN035A,bN036,bN037,bN037A,bN038,bN039,bN040,bN041,bN042,bNL001,bNL002,
     bNL003,bNL004,bNL005,bNL005A,bNL006,bNL007,bNL008,bNL009,bNL010,bNL011,bNL012,bNL013,bNL014,
     bNL015,bNL016,bNL017,bNL017A,bNL018,bNL019,bNL020,bNU001,bNU002,bNU003,bNU004,bNU005,bNU006,
     bNU007,bNU008,bNU009,bNU010,bNU010A,bNU011,bNU011A,bNU012,bNU013,bNU014,bNU015,bNU016,bNU017,
     bNU018,bNU018A,bNU019,bNU020,bNU021,bNU022,bNU022A,bO001,bO001A,bO002,bO003,bO004,bO005,bO005A,
     bO006,bO006A,bO006B,bO006C,bO006D,bO006E,bO006F,bO007,bO008,bO009,bO010,bO010A,bO010B,bO010C,
     bO011,bO012,bO013,bO014,bO015,bO016,bO017,bO018,bO019,bO019A,bO020,bO020A,bO021,bO022,bO023,
     bO024,bO024A,bO025,bO025A,bO026,bO027,bO028,bO029,bO029A,bO030,bO030A,bO031,bO032,bO033,bO033A,
     bO034,bO035,bO036,bO036A,bO036B,bO036C,bO036D,bO037,bO038,bO039,bO040,bO041,bO042,bO043,bO044,
     bO045,bO046,bO047,bO048,bO049,bO050,bO050A,bO050B,bO051,bP001,bP001A,bP002,bP003,bP003A,bP004,
     bP005,bP006,bP007,bP008,bP009,bP010,bP011,bQ001,bQ002,bQ003,bQ004,bQ005,bQ006,bQ007,bR001,
     bR002,bR002A,bR003,bR003A,bR003B,bR004,bR005,bR006,bR007,bR008,bR009,bR010,bR010A,bR011,bR012,
     bR013,bR014,bR015,bR016,bR016A,bR017,bR018,bR019,bR020,bR021,bR022,bR023,bR024,bR025,bR026,
     bR027,bR028,bR029,bS001,bS002,bS002A,bS003,bS004,bS005,bS006,bS006A,bS007,bS008,bS009,bS010,
     bS011,bS012,bS013,bS014,bS014A,bS014B,bS015,bS016,bS017,bS017A,bS018,bS019,bS020,bS021,bS022,
     bS023,bS024,bS025,bS026,bS026A,bS026B,bS027,bS028,bS029,bS030,bS031,bS032,bS033,bS034,bS035,
     bS035A,bS036,bS037,bS038,bS039,bS040,bS041,bS042,bS043,bS044,bS045,bS046,bT001,bT002,bT003,
     bT003A,bT004,bT005,bT006,bT007,bT007A,bT008,bT008A,bT009,bT009A,bT010,bT011,bT011A,bT012,bT013,
     bT014,bT015,bT016,bT016A,bT017,bT018,bT019,bT020,bT021,bT022,bT023,bT024,bT025,bT026,bT027,
     bT028,bT029,bT030,bT031,bT032,bT032A,bT033,bT033A,bT034,bT035,bT036,bU001,bU002,bU003,bU004,
     bU005,bU006,bU006A,bU006B,bU007,bU008,bU009,bU010,bU011,bU012,bU013,bU014,bU015,bU016,bU017,
     bU018,bU019,bU020,bU021,bU022,bU023,bU023A,bU024,bU025,bU026,bU027,bU028,bU029,bU029A,bU030,
     bU031,bU032,bU032A,bU033,bU034,bU035,bU036,bU037,bU038,bU039,bU040,bU041,bU042,bV001,bV001A,
     bV001B,bV001C,bV001D,bV001E,bV001F,bV001G,bV001H,bV001I,bV002,bV002A,bV003,bV004,bV005,bV006,
     bV007,bV007A,bV007B,bV008,bV009,bV010,bV011,bV011A,bV011B,bV011C,bV012,bV012A,bV012B,bV013,
     bV014,bV015,bV016,bV017,bV018,bV019,bV020,bV020A,bV020B,bV020C,bV020D,bV020E,bV020F,bV020G,
     bV020H,bV020I,bV020J,bV020K,bV020L,bV021,bV022,bV023,bV023A,bV024,bV025,bV026,bV027,bV028,
     bV028A,bV029,bV029A,bV030,bV030A,bV031,bV031A,bV032,bV033,bV033A,bV034,bV035,bV036,bV037,
     bV037A,bV038,bV039,bV040,bV040A,bW001,bW002,bW003,bW003A,bW004,bW005,bW006,bW007,bW008,bW009,
     bW009A,bW010,bW010A,bW011,bW012,bW013,bW014,bW014A,bW015,bW016,bW017,bW017A,bW018,bW018A,bW019,
     bW020,bW021,bW022,bW023,bW024,bW024A,bW025,bX001,bX002,bX003,bX004,bX004A,bX004B,bX005,bX006,
     bX006A,bX007,bX008,bX008A,bY001,bY001A,bY002,bY003,bY004,bY005,bY006,bY007,bY008,bZ001,bZ002,
     bZ002A,bZ002B,bZ002C,bZ002D,bZ003,bZ003A,bZ003B,bZ004,bZ004A,bZ005,bZ005A,bZ006,bZ007,bZ008,
     bZ009,bZ010,bZ011,bZ012,bZ013,bZ014,bZ015,bZ015A,bZ015B,bZ015C,bZ015D,bZ015E,bZ015F,bZ015G,
     bZ015H,bZ015I,bZ016,bZ016A,bZ016B,bZ016C,bZ016D,bZ016E,bZ016F,bZ016G,bZ016H,bAA001,bAA002,
     bAA003,bAA004,bAA005,bAA006,bAA007,bAA007A,bAA007B,bAA008,bAA009,bAA010,bAA011,bAA012,bAA013,
     bAA014,bAA015,bAA016,bAA017,bAA018,bAA019,bAA020,bAA021,bAA022,bAA023,bAA024,bAA025,bAA026,
     bAA027,bAA028,bAA029,bAA030,bAA031,bAA032,,bVERTICAL JOINER,bHORIZONTAL JOINER,
     bINSERT AT TOP START,dBOTTOM START,dTOP END,dBOTTOM END,bOVERLAY MIDDLE,bBEGIN SEGMENT,
     bEND SEGMENT"),
   (0x14400, "ANATOLIAN HIEROGLYPH A001,bA002,bA003,bA004,bA005,bA006,bA007,bA008,bA009,bA010,
     bA010A,bA011,bA012,bA013,bA014,bA015,bA016,bA017,bA018,bA019,bA020,bA021,bA022,bA023,bA024,
     bA025,bA026,bA026A,bA027,bA028,bA029,bA030,bA031,bA032,bA033,bA034,bA035,bA036,bA037,bA038,
     bA039,bA039A,bA040,bA041,bA041A,bA042,bA043,bA044,bA045,bA045A,bA046,bA046A,bA046B,bA047,bA048,
     bA049,bA050,bA051,bA052,bA053,bA054,bA055,bA056,bA057,bA058,bA059,bA060,bA061,bA062,bA063,
     bA064,bA065,bA066,bA066A,bA066B,bA066C,bA067,bA068,bA069,bA070,bA071,bA072,bA073,bA074,bA075,
     bA076,bA077,bA078,bA079,bA080,bA081,bA082,bA083,bA084,bA085,bA086,bA087,bA088,bA089,bA090,
     bA091,bA092,bA093,bA094,bA095,bA096,bA097,bA097A,bA098,bA098A,bA099,bA100,bA100A,bA101,bA101A,
     bA102,bA102A,bA103,bA104,bA104A,bA104B,bA104C,bA105,bA105A,bA105B,bA106,bA107,bA107A,bA107B,
     bA107C,bA108,bA109,bA110,bA110A,bA110B,bA111,bA112,bA113,bA114,bA115,bA115A,bA116,bA117,bA118,
     bA119,bA120,bA121,bA122,bA123,bA124,bA125,bA125A,bA126,bA127,bA128,bA129,bA130,bA131,bA132,
     bA133,bA134,bA135,bA135A,bA136,bA137,bA138,bA139,bA140,bA141,bA142,bA143,bA144,bA145,bA146,
     bA147,bA148,bA149,bA150,bA151,bA152,bA153,bA154,bA155,bA156,bA157,bA158,bA159,bA160,bA161,
     bA162,bA163,bA164,bA165,bA166,bA167,bA168,bA169,bA170,bA171,bA172,bA173,bA174,bA175,bA176,
     bA177,bA178,bA179,bA180,bA181,bA182,bA183,bA184,bA185,bA186,bA187,bA188,bA189,bA190,bA191,
     bA192,bA193,bA194,bA195,bA196,bA197,bA198,bA199,bA200,bA201,bA202,bA202A,bA202B,bA203,bA204,
     bA205,bA206,bA207,bA207A,bA208,bA209,bA209A,bA210,bA211,bA212,bA213,bA214,bA215,bA215A,bA216,
     bA216A,bA217,bA218,bA219,bA220,bA221,bA222,bA223,bA224,bA225,bA226,bA227,bA227A,bA228,bA229,
     bA230,bA231,bA232,bA233,bA234,bA235,bA236,bA237,bA238,bA239,bA240,bA241,bA242,bA243,bA244,
     bA245,bA246,bA247,bA248,bA249,bA250,bA251,bA252,bA253,bA254,bA255,bA256,bA257,bA258,bA259,
     bA260,bA261,bA262,bA263,bA264,bA265,bA266,bA267,bA267A,bA268,bA269,bA270,bA271,bA272,bA273,
     bA274,bA275,bA276,bA277,bA278,bA279,bA280,bA281,bA282,bA283,bA284,bA285,bA286,bA287,bA288,
     bA289,bA289A,bA290,bA291,bA292,bA293,bA294,bA294A,bA295,bA296,bA297,bA298,bA299,bA299A,bA300,
     bA301,bA302,bA303,bA304,bA305,bA306,bA307,bA308,bA309,bA309A,bA310,bA311,bA312,bA313,bA314,
     bA315,bA316,bA317,bA318,bA319,bA320,bA321,bA322,bA323,bA324,bA325,bA326,bA327,bA328,bA329,
     bA329A,bA330,bA331,bA332A,bA332B,bA332C,bA333,bA334,bA335,bA336,bA336A,bA336B,bA336C,bA337,
     bA338,bA339,bA340,bA341,bA342,bA343,bA344,bA345,bA346,bA347,bA348,bA349,bA350,bA351,bA352,
     bA353,bA354,bA355,bA356,bA357,bA358,bA359,bA359A,bA360,bA361,bA362,bA363,bA364,bA364A,bA365,
     bA366,bA367,bA368,bA368A,bA369,bA370,bA371,bA371A,bA372,bA373,bA374,bA375,bA376,bA377,bA378,
     bA379,bA380,bA381,bA381A,bA382,bA383 RA OR RI,bA383A,bA384,bA385,bA386,bA386A,bA387,bA388,
     bA389,bA390,bA391,bA392,bA393 EIGHT,bA394,bA395,bA396,bA397,bA398,bA399,bA400,bA401,bA402,
     bA403,bA404,bA405,bA406,bA407,bA408,bA409,bA410 BEGIN LOGOGRAM MARK,bA410A END LOGOGRAM MARK,
     bA411,bA412,bA413,bA414,bA415,bA416,bA417,bA418,bA419,bA420,bA421,bA422,bA423,bA424,bA425,
     bA426,bA427,bA428,bA429,bA430,bA431,bA432,bA433,bA434,bA435,bA436,bA437,bA438,bA439,bA440,
     bA441,bA442,bA443,bA444,bA445,bA446,bA447,bA448,bA449,bA450,bA450A,bA451,bA452,bA453,bA454,
     bA455,bA456,bA457,bA457A,bA458,bA459,bA460,bA461,bA462,bA463,bA464,bA465,bA466,bA467,bA468,
     bA469,bA470,bA471,bA472,bA473,bA474,bA475,bA476,bA477,bA478,bA479,bA480,bA481,bA482,bA483,
     bA484,bA485,bA486,bA487,bA488,bA489,bA490,bA491,bA492,bA493,bA494,bA495,bA496,bA497,bA501,
     bA502,bA503,bA504,bA505,bA506,bA507,bA508,bA509,bA510,bA511,bA512,bA513,bA514,bA515,bA516,
     bA517,bA518,bA519,bA520,bA521,bA522,bA523,bA524,bA525,bA526,bA527,bA528,bA529,bA530"),
   (0x16800, "BAMUM LETTER PHASE-A NGKUE MFON,cGBIEE FON,cPON MFON PIPAEMGBIEE,ePIPAEMBA,cNAA MFON,
     cSHUENSHUET,cTITA MFON,cNZA MFON,cSHINDA PA NJI,cPON PA NJI PIPAEMGBIEE,fPIPAEMBA,cMAEMBGBIEE,
     cTU MAEMBA,cNGANGU,cMAEMVEUX,cMANSUAE,cMVEUAENGAM,cSEUNYAM,cNTOQPEN,cKEUKEUTNDA,cNKINDI,cSUU,
     cNGKUENZEUM,cLAPAQ,cLET KUT,cNTAP MFAA,cMAEKEUP,cPASHAE,cGHEUAERAE,cPAMSHAE,cMON NGGEUAET,
     cNZUN MEUT,cU YUQ NAE,cGHEUAEGHEUAE,cNTAP NTAA,cSISA,cMGBASA,cMEUNJOMNDEUQ,cMOOMPUQ,cKAFA,
     cPA LEERAEWA,cNDA LEERAEWA,cPET,cMAEMKPEN,cNIKA,cPUP,cTUAEP,cLUAEP,cSONJAM,cTEUTEUWEN,cMAENYI,
     cKET,cNDAANGGEUAET,cKUOQ,cMOOMEUT,cSHUM,cLOMMAE,cFIRI,cROM,cKPOQ,cSOQ,cMAP PIEET,cSHIRAE,cNTAP,
     cSHOQ NSHUT YUM,cNYIT MONGKEUAEQ,cPAARAE,cNKAARAE,cUNKNOWN,cNGGEN,cMAESI,cNJAM,cMBANYI,cNYET,
     cTEUAEN,cSOT,cPAAM,cNSHIEE,cMAEM,cNYI,cKAQ,cNSHA,cVEE,cLU,cNEN,cNAQ,cMBAQ,bPHASE-B NSHUET,
     cTU MAEMGBIEE,cSIEE,cSET TU,cLOM NTEUM,cMBA MAELEE,cKIEEM,cYEURAE,cMBAARAE,cKAM,cPEESHI,
     cYAFU LEERAEWA,cLAM NSHUT NYAM,cNTIEE SHEUOQ,cNDU NJAA,cGHEUGHEUAEM,cPIT,cTU NSIEE,cSHET NJAQ,
     cSHEUAEQTU,cMFON TEUAEQ,cMBIT MBAAKET,cNYI NTEUM,cKEUPUQ,cGHEUGHEN,cKEUYEUX,cLAANAE,cPARUM,
     cVEUM,cNGKINDI MVOP,cNGGEU MBU,cWUAET,cSAKEUAE,cTAAM,cMEUQ,cNGGUOQ,dLARGE,cMFIYAQ,cSUE,cMBEURI,
     cMONTIEEN,cNYAEMAE,cPUNGAAM,cMEUT NGGEET,cFEUX,cMBUOQ,cFEE,cKEUAEM,cMA NJEUAENA,dNJUQA,cLET,
     cNGGAAM,cNSEN,cMA,cKIQ,cNGOM,bPHASE-C NGKUE MAEMBA,cNZA,cYUM,cWANGKUOQ,cNGGEN,cNDEUAEREE,
     cNGKAQ,cGHARAE,cMBEEKEET,cGBAYI,cNYIR MKPARAQ MEUN,cNTU MBIT,cMBEUM,cPIRIEEN,cNDOMBU,
     cMBAA CABBAGE-TREE,cKEUSHEUAEP,cGHAP,cKEUKAQ,cYU MUOMAE,cNZEUM,cMBUE,cNSEUAEN,cMBIT,cYEUQ,
     cKPARAQ,cKAA,cSEUX,cNDIDA,cTAASHAE,cNJUEQ,cTITA YUE,cSUAET,cNGGUAEN NYAM,cVEUX,cNANSANAQ,
     cMA KEUAERI,cNTAA,cNGGUON,cLAP,cMBIRIEEN,cMGBASAQ,cNTEUNGBA,cTEUTEUX,cNGGUM,cFUE,cNDEUT,cNSA,
     cNSHAQ,cBUNG,cVEUAEPEN,cMBERAE,cRU,cNJAEM,cLAM,cTITUAEP,cNSUOT NGOM,cNJEEEE,cKET,cNGGU,cMAESI,
     cMBUAEM,cLU,cKUT,cNJAM,cNGOM,cWUP,cNGGUEET,cNSOM,cNTEN,cKUOP NKAARAE,cNSUN,cNDAM,cMA NSIEE,
     cYAA,cNDAP,cSHUEQ,cSETFON,cMBI,cMAEMBA,cMBANYI,cKEUSEUX,cMBEUX,cKEUM,cMBAA PICKET,cYUWOQ,
     cNJEUX,cMIEE,cMUAE,cSHIQ,cKEN LAW,dFATIGUE,cNGAQ,cNAQ,cLIQ,cPIN,cPEN,cTET,bPHASE-D MBUO,cWAP,
     cNJI,cMFON,cNJIEE,cLIEE,cNJEUT,cNSHEE,cNGGAAMAE,cNYAM,cWUAEN,cNGKUN,cSHEE,cNGKAP,cKEUAETMEUN,
     cTEUT,cSHEUAE,cNJAP,cSUE,cKET,cYAEMMAE,cKUOM,cSAP,cMFEUT,cNDEUX,cMALEERI,cMEUT,cSEUAEQ,cYEN,
     cNJEUAEM,cKEUOT MBUAE,cNGKEURI,cTU,cGHAA,cNGKYEE,cFEUFEUAET,cNDEE,cMGBOFUM,cLEUAEP,cNDON,cMONI,
     cMGBEUN,cPUUT,cMGBIEE,cMFO,cLUM,cNSIEEP,cMBAA,cKWAET,cNYET,cTEUAEN,cSOT,cYUWOQ,cKEUM,cRAEM,
     cTEEEE,cNGKEUAEQ,cMFEUAE,cNSIEET,cKEUP,cPIP,cPEUTAE,cNYUE,cLET,cNGGAAM,cMFIEE,cNGGWAEN,cYUOM,
     cPAP,cYUOP,cNDAM,cNTEUM,cSUAE,cKUN,cNGGEUX,cNGKIEE,cTUOT,cMEUN,cKUQ,cNSUM,cTEUN,cMAENJET,
     cNGGAP,cLEUM,cNGGUOM,cNSHUT,cNJUEQ,cGHEUAE,cKU,cREN OLD,cTAE,cTOQ,cNYI,cRII,cLEEEE,cMEEEE,cM,
     cSUU,cMU,cSHII,cSHEUX,cKYEE,cNU,cSHU,cNTEE,cPEE,cNI,cSHOQ,cPUQ,cMVOP,cLOQ,cREN MUCH,cTI,cNTUU,
     cMBAA SEVEN,cSAQ,cFAA,bPHASE-E NDAP,cTOON,cMBEUM,cLAP,cVOM,cLOON,cPAA,cSOM,cRAQ,cNSHUOP,cNDUN,
     cPUAE,cTAM,cNGKA,cKPEUX,cWUO,cSEE,cNGGEUAET,cPAAM,cTOO,cKUOP,cLOM,cNSHIEE,cNGOP,cMAEM,cNGKEUX,
     cNGOQ,cNSHUE,cRIMGBA,cNJEUX,cPEEM,cSAA,cNGGURAE,cMGBA,cGHEUX,cNGKEUAEM,cNJAEMLI,cMAP,cLOOT,
     cNGGEEEE,cNDIQ,cTAEN NTEUM,cSET,cPUM,cNDAA SOFTNESS,cNGGUAESHAE NYAM,cYIEE,cGHEUN,cTUAE,cYEUAE,
     cPO,cTUMAE,cKEUAE,cSUAEN,cTEUAEQ,cVEUAE,cWEUX,cLAAM,cPU,cTAAQ,cGHAAMAE,cNGEUREUT,cSHEUAEQ,
     cMGBEN,cMBEE,cNZAQ,cNKOM,cGBET,cTUM,cKUET,cYAP,cNYI CLEAVER,cYIT,cMFEUQ,cNDIAQ,cPIEEQ,cYUEQ,
     cLEUAEM,cFUE,cGBEUX,cNGKUP,cKET,cMAE,cNGKAAMI,cGHET,cFA,cNTUM,cPEUT,cYEUM,cNGGEUAE,
     cNYI BETWEEN,cNZUQ,cPOON,cMIEE,cFUET,cNAE,cMUAE,cGHEUAE,cFU I,cMVI,cPUAQ,cNGKUM,cKUT,cPIET,
     cNTAP,cYEUAET,cNGGUP,cPA PEOPLE,cFU CALL,cFOM,cNJEE,cA,cTOQ,cO,cI,cLAQ,cPA PLURAL,cTAA,cTAQ,
     cNDAA MY HOUSE,cSHIQ,cYEUX,cNGUAE,cYUAEN,cYOQ SWIMMING,dCOVER,cYUQ,cYUN,cKEUX,cPEUX,
     cNJEE EPOCH,cPUE,cWUE,cFEE,cVEE,cLU,cMI,cREUX,cRAE,cNGUAET,cNGA,cSHO,cSHOQ,cFU REMEDY,cNA,cPI,
     cLOQ,cKO,cMEN,cMA,cMAQ,cTEU,cKI,cMON,cTEN,cFAQ,cGHOM,bPHASE-F KA,cU,cKU,cEE,cREE,cTAE,cNYI,cLA,
     cRII,cRIEE,cMEEEE,cTAA,cNDAA,cNJAEM,cM,cSUU,cSHII,cSI,cSEUX,cKYEE,cKET,cNUAE,cNU,cNJUAE,cYOQ,
     cSHU,cYA,cNSHA,cPEUX,cNTEE,cWUE,cPEE,cRU,cNI,cREUX,cKEN,cNGKWAEN,cNGGA,cSHO,cPUAE,cFOM,cWA,cLI,
     cLOQ,cKO,cMBEN,cREN,cMA,cMO,cMBAA,cTET,cKPA,cSAMBA,cVUEQ,,,,,,,,MRO LETTER TA,bNGI,bYO,bMIM,
     bBA,bDA,bA,bPHI,bKHAI,bHAO,bDAI,bCHU,bKEAAE,bOL,bMAEM,bNIN,bPA,bOO,bO,bRO,bSHI,bTHEA,bEA,bWA,
     bE,bKO,bLAN,bLA,bHAI,bRI,bTEK,,aDIGIT ZERO,bONE,bTWO,bTHREE,bFOUR,bFIVE,bSIX,bSEVEN,bEIGHT,
     bNINE,,,,,aDANDA,aDOUBLE DANDA,TANGSA LETTER OZ,bOC,bOQ,bOX,bAZ,bAC,bAQ,bAX,bVZ,bVC,bVQ,bVX,
     bEZ,bEC,bEQ,bEX,bIZ,bIC,bIQ,bIX,bUZ,bUC,bUQ,bUX,bAWZ,bAWC,bAWQ,bAWX,bUIZ,bUIC,bUIQ,bUIX,
     bFINAL NG,bLONG UEX,bSHORT UEZ,cAWX,bUEC,bUEZ,bUEQ,bUEX,bUIUZ,bUIUC,bUIUQ,bUIUX,bMZ,bMC,bMQ,
     bMX,bKA,bKHA,bGA,bNGA,bSA,bYA,bWA,bPA,bNYA,bPHA,bBA,bMA,bNA,bHA,bLA,bHTA,bTA,bDA,bRA,bNHA,bSHA,
     bCA,bTSA,bGHA,bHTTA,bTHA,bXA,bFA,bDHA,bCHA,bZA,,aDIGIT ZERO,bONE,bTWO,bTHREE,bFOUR,bFIVE,bSIX,
     bSEVEN,bEIGHT,bNINE,,,,,,,BASSA VAH LETTER ENNI,cKA,cSE,cFA,cMBE,cYIE,cGAH,cDHII,cKPAH,cJO,
     cHWAH,cWA,cZO,cGBU,cDO,cCE,cUWU,cTO,cBA,cVU,cYEIN,cPA,cWADDA,cA,cO,cOO,cU,cEE,cE,cI,,,
     bCOMBINING HIGH TONE,cLOW TONE,cMID TONE,cLOW-MID TONE,cHIGH-LOW TONE,bFULL STOP"),
   (0x16b00, "PAHAWH HMONG VOWEL KEEB,cKEEV,cKIB,cKIV,cKAUB,cKAUV,cKUB,cKUV,cKEB,cKEV,cKAIB,cKAIV,
     cKOOB,cKOOV,cKAWB,cKAWV,cKUAB,cKUAV,cKOB,cKOV,cKIAB,cKIAV,cKAB,cKAV,cKWB,cKWV,cKAAB,cKAAV,
     bCONSONANT VAU,cNTSAU,cLAU,cHAU,cNLAU,cRAU,cNKAU,cQHAU,cYAU,cHLAU,cMAU,cCHAU,cNCHAU,cHNAU,
     cPLHAU,cNTHAU,cNAU,cAU,cXAU,cCAU,bMARK CIM TUB,dSO,dKES,dKHAV,dSUAM,dHOM,dTAUM,bSIGN VOS THOM,
     dTSHAB CEEB,cCIM CHEEM,cVOS THIAB,dFEEM,cXYEEM NTXIV,dRHO,dTOV,dFAIB,cVOS SEEV,cMEEJ SUAB,
     cVOS NRUA,cIB YAM,cXAUS,cCIM TSOV ROG"),
   (0x16b50, "PAHAWH HMONG DIGIT ZERO,cONE,cTWO,cTHREE,cFOUR,cFIVE,cSIX,cSEVEN,cEIGHT,cNINE,,
     bNUMBER TENS,cHUNDREDS,cTEN THOUSANDS,cMILLIONS,cHUNDRED MILLIONS,cTEN BILLIONS,cTRILLIONS,,
     bSIGN VOS LUB,cXYOO,cHLI,cTHIRD-STAGE HLI,cZWJ THAJ,cHNUB,cNQIG,cXIAB,cNTUJ,cAV,cTXHEEJ CEEV,
     cMEEJ TSEEB,cTAU,cLOS,cMUS,cCIM HAIS LUS NTOG NTOG,dCUAM TSHOOJ,dTXWV,eCHWV,dPUB DAWB,
     dNRES TOS,,,,,,bCLAN SIGN TSHEEJ,dYEEG,dLIS,dLAUJ,dXYOOJ,dKOO,dHAWJ,dMUAS,dTHOJ,dTSAB,dPHAB,
     dKHAB,dHAM,dVAJ,dFAJ,dYAJ,dTSWB,dKWM,dVWJ"),
   (0x16e40, "MEDEFAIDRIN CAPITAL LETTER M,cS,cV,cW,cATIU,cZ,cKP,cP,cT,cG,cF,cI,cK,cA,cJ,cE,cB,cC,
     cU,cYU,cL,cQ,cHP,cNY,cX,cD,cOE,cN,cR,cO,cAI,cY,aSMALL LETTER M,cS,cV,cW,cATIU,cZ,cKP,cP,cT,cG,
     cF,cI,cK,cA,cJ,cE,cB,cC,cU,cYU,cL,cQ,cHP,cNY,cX,cD,cOE,cN,cR,cO,cAI,cY,aDIGIT ZERO,bONE,bTWO,
     bTHREE,bFOUR,bFIVE,bSIX,bSEVEN,bEIGHT,bNINE,aNUMBER TEN,bELEVEN,bTWELVE,bTHIRTEEN,bFOURTEEN,
     bFIFTEEN,bSIXTEEN,bSEVENTEEN,bEIGHTEEN,bNINETEEN,aDIGIT ONE ALTERNATE FORM,bTWO ALTERNATE FORM,
     bTHREE ALTERNATE FORM,aCOMMA,aFULL STOP,aSYMBOL AIVA,aEXCLAMATION OH"),
   (0x16f00, "MIAO LETTER PA,bBA,bYI PA,bPLA,bMA,bMHA,bARCHAIC MA,bFA,bVA,bVFA,bTA,bDA,bYI TTA,cTA,
     bTTA,bDDA,bNA,bNHA,bYI NNA,bARCHAIC NA,bNNA,bNNHA,bLA,bLYA,bLHA,bLHYA,bTLHA,bDLHA,bTLHYA,
     bDLHYA,bKA,bGA,bYI KA,bQA,bQGA,bNGA,bNGHA,bARCHAIC NGA,bHA,bXA,bGHA,bGHHA,bTSSA,bDZZA,bNYA,
     bNYHA,bTSHA,bDZHA,bYI TSHA,cDZHA,bREFORMED TSHA,bSHA,bSSA,bZHA,bZSHA,bTSA,bDZA,bYI TSA,bSA,bZA,
     bZSA,bZZA,bZZSA,bARCHAIC ZZA,bZZYA,bZZSYA,bWA,bAH,bHHA,bBRI,bSYI,bDZYI,bTE,bTSE,bRTE,,,,,
     aSIGN CONSONANT MODIFIER BAR,aLETTER NASALIZATION,aSIGN ASPIRATION,bREFORMED VOICING,
     cASPIRATION,aVOWEL SIGN A,cAA,cAHH,cAN,cANG,cO,cOO,cWO,cW,cE,cEN,cENG,cOEY,cI,cIA,cIAN,cIANG,
     cIO,cIE,cII,cIU,cING,cU,cUA,cUAN,cUANG,cUU,cUEI,cUNG,cY,cYI,cAE,cAEE,cERR,cROUNDED ERR,cER,
     cROUNDED ER,cAI,cEI,cAU,cOU,cN,cNG,cUOG,cYUI,cOG,cOER,cVW,cIG,cEA,cIONG,cUI,,,,,,,,aTONE RIGHT,
     bTOP RIGHT,bABOVE,bBELOW,aLETTER TONE-2,bTONE-3,bTONE-4,bTONE-5,bTONE-6,bTONE-7,bTONE-8,
     bREFORMED TONE-1,cTONE-2,cTONE-4,cTONE-5,cTONE-6,cTONE-8"),
   (0x16fe0, "TANGUT ITERATION MARK,NUSHU ITERATION MARK,OLD CHINESE HOOK MARK,bITERATION MARK,
     KHITAN SMALL SCRIPT FILLER"),
   (0x16ff0, "VIETNAMESE ALTERNATE READING MARK CA,dNHAY"),
   (0x18800, "TANGUT COMPONENT-001,aCOMPONENT-002,aCOMPONENT-003,aCOMPONENT-004,aCOMPONENT-005,
     aCOMPONENT-006,aCOMPONENT-007,aCOMPONENT-008,aCOMPONENT-009,aCOMPONENT-010,aCOMPONENT-011,
     aCOMPONENT-012,aCOMPONENT-013,aCOMPONENT-014,aCOMPONENT-015,aCOMPONENT-016,aCOMPONENT-017,
     aCOMPONENT-018,aCOMPONENT-019,aCOMPONENT-020,aCOMPONENT-021,aCOMPONENT-022,aCOMPONENT-023,
     aCOMPONENT-024,aCOMPONENT-025,aCOMPONENT-026,aCOMPONENT-027,aCOMPONENT-028,aCOMPONENT-029,
     aCOMPONENT-030,aCOMPONENT-031,aCOMPONENT-032,aCOMPONENT-033,aCOMPONENT-034,aCOMPONENT-035,
     aCOMPONENT-036,aCOMPONENT-037,aCOMPONENT-038,aCOMPONENT-039,aCOMPONENT-040,aCOMPONENT-041,
     aCOMPONENT-042,aCOMPONENT-043,aCOMPONENT-044,aCOMPONENT-045,aCOMPONENT-046,aCOMPONENT-047,
     aCOMPONENT-048,aCOMPONENT-049,aCOMPONENT-050,aCOMPONENT-051,aCOMPONENT-052,aCOMPONENT-053,
     aCOMPONENT-054,aCOMPONENT-055,aCOMPONENT-056,aCOMPONENT-057,aCOMPONENT-058,aCOMPONENT-059,
     aCOMPONENT-060,aCOMPONENT-061,aCOMPONENT-062,aCOMPONENT-063,aCOMPONENT-064,aCOMPONENT-065,
     aCOMPONENT-066,aCOMPONENT-067,aCOMPONENT-068,aCOMPONENT-069,aCOMPONENT-070,aCOMPONENT-071,
     aCOMPONENT-072,aCOMPONENT-073,aCOMPONENT-074,aCOMPONENT-075,aCOMPONENT-076,aCOMPONENT-077,
     aCOMPONENT-078,aCOMPONENT-079,aCOMPONENT-080,aCOMPONENT-081,aCOMPONENT-082,aCOMPONENT-083,
     aCOMPONENT-084,aCOMPONENT-085,aCOMPONENT-086,aCOMPONENT-087,aCOMPONENT-088,aCOMPONENT-089,
     aCOMPONENT-090,aCOMPONENT-091,aCOMPONENT-092,aCOMPONENT-093,aCOMPONENT-094,aCOMPONENT-095,
     aCOMPONENT-096,aCOMPONENT-097,aCOMPONENT-098,aCOMPONENT-099,aCOMPONENT-100,aCOMPONENT-101,
     aCOMPONENT-102,aCOMPONENT-103,aCOMPONENT-104,aCOMPONENT-105,aCOMPONENT-106,aCOMPONENT-107,
     aCOMPONENT-108,aCOMPONENT-109,aCOMPONENT-110,aCOMPONENT-111,aCOMPONENT-112,aCOMPONENT-113,
     aCOMPONENT-114,aCOMPONENT-115,aCOMPONENT-116,aCOMPONENT-117,aCOMPONENT-118,aCOMPONENT-119,
     aCOMPONENT-120,aCOMPONENT-121,aCOMPONENT-122,aCOMPONENT-123,aCOMPONENT-124,aCOMPONENT-125,
     aCOMPONENT-126,aCOMPONENT-127,aCOMPONENT-128,aCOMPONENT-129,aCOMPONENT-130,aCOMPONENT-131,
     aCOMPONENT-132,aCOMPONENT-133,aCOMPONENT-134,aCOMPONENT-135,aCOMPONENT-136,aCOMPONENT-137,
     aCOMPONENT-138,aCOMPONENT-139,aCOMPONENT-140,aCOMPONENT-141,aCOMPONENT-142,aCOMPONENT-143,
     aCOMPONENT-144,aCOMPONENT-145,aCOMPONENT-146,aCOMPONENT-147,aCOMPONENT-148,aCOMPONENT-149,
     aCOMPONENT-150,aCOMPONENT-151,aCOMPONENT-152,aCOMPONENT-153,aCOMPONENT-154,aCOMPONENT-155,
     aCOMPONENT-156,aCOMPONENT-157,aCOMPONENT-158,aCOMPONENT-159,aCOMPONENT-160,aCOMPONENT-161,
     aCOMPONENT-162,aCOMPONENT-163,aCOMPONENT-164,aCOMPONENT-165,aCOMPONENT-166,aCOMPONENT-167,
     aCOMPONENT-168,aCOMPONENT-169,aCOMPONENT-170,aCOMPONENT-171,aCOMPONENT-172,aCOMPONENT-173,
     aCOMPONENT-174,aCOMPONENT-175,aCOMPONENT-176,aCOMPONENT-177,aCOMPONENT-178,aCOMPONENT-179,
     aCOMPONENT-180,aCOMPONENT-181,aCOMPONENT-182,aCOMPONENT-183,aCOMPONENT-184,aCOMPONENT-185,
     aCOMPONENT-186,aCOMPONENT-187,aCOMPONENT-188,aCOMPONENT-189,aCOMPONENT-190,aCOMPONENT-191,
     aCOMPONENT-192,aCOMPONENT-193,aCOMPONENT-194,aCOMPONENT-195,aCOMPONENT-196,aCOMPONENT-197,
     aCOMPONENT-198,aCOMPONENT-199,aCOMPONENT-200,aCOMPONENT-201,aCOMPONENT-202,aCOMPONENT-203,
     aCOMPONENT-204,aCOMPONENT-205,aCOMPONENT-206,aCOMPONENT-207,aCOMPONENT-208,aCOMPONENT-209,
     aCOMPONENT-210,aCOMPONENT-211,aCOMPONENT-212,aCOMPONENT-213,aCOMPONENT-214,aCOMPONENT-215,
     aCOMPONENT-216,aCOMPONENT-217,aCOMPONENT-218,aCOMPONENT-219,aCOMPONENT-220,aCOMPONENT-221,
     aCOMPONENT-222,aCOMPONENT-223,aCOMPONENT-224,aCOMPONENT-225,aCOMPONENT-226,aCOMPONENT-227,
     aCOMPONENT-228,aCOMPONENT-229,aCOMPONENT-230,aCOMPONENT-231,aCOMPONENT-232,aCOMPONENT-233,
     aCOMPONENT-234,aCOMPONENT-235,aCOMPONENT-236,aCOMPONENT-237,aCOMPONENT-238,aCOMPONENT-239,
     aCOMPONENT-240,aCOMPONENT-241,aCOMPONENT-242,aCOMPONENT-243,aCOMPONENT-244,aCOMPONENT-245,
     aCOMPONENT-246,aCOMPONENT-247,aCOMPONENT-248,aCOMPONENT-249,aCOMPONENT-250,aCOMPONENT-251,
     aCOMPONENT-252,aCOMPONENT-253,aCOMPONENT-254,aCOMPONENT-255,aCOMPONENT-256,aCOMPONENT-257,
     aCOMPONENT-258,aCOMPONENT-259,aCOMPONENT-260,aCOMPONENT-261,aCOMPONENT-262,aCOMPONENT-263,
     aCOMPONENT-264,aCOMPONENT-265,aCOMPONENT-266,aCOMPONENT-267,aCOMPONENT-268,aCOMPONENT-269,
     aCOMPONENT-270,aCOMPONENT-271,aCOMPONENT-272,aCOMPONENT-273,aCOMPONENT-274,aCOMPONENT-275,
     aCOMPONENT-276,aCOMPONENT-277,aCOMPONENT-278,aCOMPONENT-279,aCOMPONENT-280,aCOMPONENT-281,
     aCOMPONENT-282,aCOMPONENT-283,aCOMPONENT-284,aCOMPONENT-285,aCOMPONENT-286,aCOMPONENT-287,
     aCOMPONENT-288,aCOMPONENT-289,aCOMPONENT-290,aCOMPONENT-291,aCOMPONENT-292,aCOMPONENT-293,
     aCOMPONENT-294,aCOMPONENT-295,aCOMPONENT-296,aCOMPONENT-297,aCOMPONENT-298,aCOMPONENT-299,
     aCOMPONENT-300,aCOMPONENT-301,aCOMPONENT-302,aCOMPONENT-303,aCOMPONENT-304,aCOMPONENT-305,
     aCOMPONENT-306,aCOMPONENT-307,aCOMPONENT-308,aCOMPONENT-309,aCOMPONENT-310,aCOMPONENT-311,
     aCOMPONENT-312,aCOMPONENT-313,aCOMPONENT-314,aCOMPONENT-315,aCOMPONENT-316,aCOMPONENT-317,
     aCOMPONENT-318,aCOMPONENT-319,aCOMPONENT-320,aCOMPONENT-321,aCOMPONENT-322,aCOMPONENT-323,
     aCOMPONENT-324,aCOMPONENT-325,aCOMPONENT-326,aCOMPONENT-327,aCOMPONENT-328,aCOMPONENT-329,
     aCOMPONENT-330,aCOMPONENT-331,aCOMPONENT-332,aCOMPONENT-333,aCOMPONENT-334,aCOMPONENT-335,
     aCOMPONENT-336,aCOMPONENT-337,aCOMPONENT-338,aCOMPONENT-339,aCOMPONENT-340,aCOMPONENT-341,
     aCOMPONENT-342,aCOMPONENT-343,aCOMPONENT-344,aCOMPONENT-345,aCOMPONENT-346,aCOMPONENT-347,
     aCOMPONENT-348,aCOMPONENT-349,aCOMPONENT-350,aCOMPONENT-351,aCOMPONENT-352,aCOMPONENT-353,
     aCOMPONENT-354,aCOMPONENT-355,aCOMPONENT-356,aCOMPONENT-357,aCOMPONENT-358,aCOMPONENT-359,
     aCOMPONENT-360,aCOMPONENT-361,aCOMPONENT-362,aCOMPONENT-363,aCOMPONENT-364,aCOMPONENT-365,
     aCOMPONENT-366,aCOMPONENT-367,aCOMPONENT-368,aCOMPONENT-369,aCOMPONENT-370,aCOMPONENT-371,
     aCOMPONENT-372,aCOMPONENT-373,aCOMPONENT-374,aCOMPONENT-375,aCOMPONENT-376,aCOMPONENT-377,
     aCOMPONENT-378,aCOMPONENT-379,aCOMPONENT-380,aCOMPONENT-381,aCOMPONENT-382,aCOMPONENT-383,
     aCOMPONENT-384,aCOMPONENT-385,aCOMPONENT-386,aCOMPONENT-387,aCOMPONENT-388,aCOMPONENT-389,
     aCOMPONENT-390,aCOMPONENT-391,aCOMPONENT-392,aCOMPONENT-393,aCOMPONENT-394,aCOMPONENT-395,
     aCOMPONENT-396,aCOMPONENT-397,aCOMPONENT-398,aCOMPONENT-399,aCOMPONENT-400,aCOMPONENT-401,
     aCOMPONENT-402,aCOMPONENT-403,aCOMPONENT-404,aCOMPONENT-405,aCOMPONENT-406,aCOMPONENT-407,
     aCOMPONENT-408,aCOMPONENT-409,aCOMPONENT-410,aCOMPONENT-411,aCOMPONENT-412,aCOMPONENT-413,
     aCOMPONENT-414,aCOMPONENT-415,aCOMPONENT-416,aCOMPONENT-417,aCOMPONENT-418,aCOMPONENT-419,
     aCOMPONENT-420,aCOMPONENT-421,aCOMPONENT-422,aCOMPONENT-423,aCOMPONENT-424,aCOMPONENT-425,
     aCOMPONENT-426,aCOMPONENT-427,aCOMPONENT-428,aCOMPONENT-429,aCOMPONENT-430,aCOMPONENT-431,
     aCOMPONENT-432,aCOMPONENT-433,aCOMPONENT-434,aCOMPONENT-435,aCOMPONENT-436,aCOMPONENT-437,
     aCOMPONENT-438,aCOMPONENT-439,aCOMPONENT-440,aCOMPONENT-441,aCOMPONENT-442,aCOMPONENT-443,
     aCOMPONENT-444,aCOMPONENT-445,aCOMPONENT-446,aCOMPONENT-447,aCOMPONENT-448,aCOMPONENT-449,
     aCOMPONENT-450,aCOMPONENT-451,aCOMPONENT-452,aCOMPONENT-453,aCOMPONENT-454,aCOMPONENT-455,
     aCOMPONENT-456,aCOMPONENT-457,aCOMPONENT-458,aCOMPONENT-459,aCOMPONENT-460,aCOMPONENT-461,
     aCOMPONENT-462,aCOMPONENT-463,aCOMPONENT-464,aCOMPONENT-465,aCOMPONENT-466,aCOMPONENT-467,
     aCOMPONENT-468,aCOMPONENT-469,aCOMPONENT-470,aCOMPONENT-471,aCOMPONENT-472,aCOMPONENT-473,
     aCOMPONENT-474,aCOMPONENT-475,aCOMPONENT-476,aCOMPONENT-477,aCOMPONENT-478,aCOMPONENT-479,
     aCOMPONENT-480,aCOMPONENT-481,aCOMPONENT-482,aCOMPONENT-483,aCOMPONENT-484,aCOMPONENT-485,
     aCOMPONENT-486,aCOMPONENT-487,aCOMPONENT-488,aCOMPONENT-489,aCOMPONENT-490,aCOMPONENT-491,
     aCOMPONENT-492,aCOMPONENT-493,aCOMPONENT-494,aCOMPONENT-495,aCOMPONENT-496,aCOMPONENT-497,
     aCOMPONENT-498,aCOMPONENT-499,aCOMPONENT-500,aCOMPONENT-501,aCOMPONENT-502,aCOMPONENT-503,
     aCOMPONENT-504,aCOMPONENT-505,aCOMPONENT-506,aCOMPONENT-507,aCOMPONENT-508,aCOMPONENT-509,
     aCOMPONENT-510,aCOMPONENT-511,aCOMPONENT-512,aCOMPONENT-513,aCOMPONENT-514,aCOMPONENT-515,
     aCOMPONENT-516,aCOMPONENT-517,aCOMPONENT-518,aCOMPONENT-519,aCOMPONENT-520,aCOMPONENT-521,
     aCOMPONENT-522,aCOMPONENT-523,aCOMPONENT-524,aCOMPONENT-525,aCOMPONENT-526,aCOMPONENT-527,
     aCOMPONENT-528,aCOMPONENT-529,aCOMPONENT-530,aCOMPONENT-531,aCOMPONENT-532,aCOMPONENT-533,
     aCOMPONENT-534,aCOMPONENT-535,aCOMPONENT-536,aCOMPONENT-537,aCOMPONENT-538,aCOMPONENT-539,
     aCOMPONENT-540,aCOMPONENT-541,aCOMPONENT-542,aCOMPONENT-543,aCOMPONENT-544,aCOMPONENT-545,
     aCOMPONENT-546,aCOMPONENT-547,aCOMPONENT-548,aCOMPONENT-549,aCOMPONENT-550,aCOMPONENT-551,
     aCOMPONENT-552,aCOMPONENT-553,aCOMPONENT-554,aCOMPONENT-555,aCOMPONENT-556,aCOMPONENT-557,
     aCOMPONENT-558,aCOMPONENT-559,aCOMPONENT-560,aCOMPONENT-561,aCOMPONENT-562,aCOMPONENT-563,
     aCOMPONENT-564,aCOMPONENT-565,aCOMPONENT-566,aCOMPONENT-567,aCOMPONENT-568,aCOMPONENT-569,
     aCOMPONENT-570,aCOMPONENT-571,aCOMPONENT-572,aCOMPONENT-573,aCOMPONENT-574,aCOMPONENT-575,
     aCOMPONENT-576,aCOMPONENT-577,aCOMPONENT-578,aCOMPONENT-579,aCOMPONENT-580,aCOMPONENT-581,
     aCOMPONENT-582,aCOMPONENT-583,aCOMPONENT-584,aCOMPONENT-585,aCOMPONENT-586,aCOMPONENT-587,
     aCOMPONENT-588,aCOMPONENT-589,aCOMPONENT-590,aCOMPONENT-591,aCOMPONENT-592,aCOMPONENT-593,
     aCOMPONENT-594,aCOMPONENT-595,aCOMPONENT-596,aCOMPONENT-597,aCOMPONENT-598,aCOMPONENT-599,
     aCOMPONENT-600,aCOMPONENT-601,aCOMPONENT-602,aCOMPONENT-603,aCOMPONENT-604,aCOMPONENT-605,
     aCOMPONENT-606,aCOMPONENT-607,aCOMPONENT-608,aCOMPONENT-609,aCOMPONENT-610,aCOMPONENT-611,
     aCOMPONENT-612,aCOMPONENT-613,aCOMPONENT-614,aCOMPONENT-615,aCOMPONENT-616,aCOMPONENT-617,
     aCOMPONENT-618,aCOMPONENT-619,aCOMPONENT-620,aCOMPONENT-621,aCOMPONENT-622,aCOMPONENT-623,
     aCOMPONENT-624,aCOMPONENT-625,aCOMPONENT-626,aCOMPONENT-627,aCOMPONENT-628,aCOMPONENT-629,
     aCOMPONENT-630,aCOMPONENT-631,aCOMPONENT-632,aCOMPONENT-633,aCOMPONENT-634,aCOMPONENT-635,
     aCOMPONENT-636,aCOMPONENT-637,aCOMPONENT-638,aCOMPONENT-639,aCOMPONENT-640,aCOMPONENT-641,
     aCOMPONENT-642,aCOMPONENT-643,aCOMPONENT-644,aCOMPONENT-645,aCOMPONENT-646,aCOMPONENT-647,
     aCOMPONENT-648,aCOMPONENT-649,aCOMPONENT-650,aCOMPONENT-651,aCOMPONENT-652,aCOMPONENT-653,
     aCOMPONENT-654,aCOMPONENT-655,aCOMPONENT-656,aCOMPONENT-657,aCOMPONENT-658,aCOMPONENT-659,
     aCOMPONENT-660,aCOMPONENT-661,aCOMPONENT-662,aCOMPONENT-663,aCOMPONENT-664,aCOMPONENT-665,
     aCOMPONENT-666,aCOMPONENT-667,aCOMPONENT-668,aCOMPONENT-669,aCOMPONENT-670,aCOMPONENT-671,
     aCOMPONENT-672,aCOMPONENT-673,aCOMPONENT-674,aCOMPONENT-675,aCOMPONENT-676,aCOMPONENT-677,
     aCOMPONENT-678,aCOMPONENT-679,aCOMPONENT-680,aCOMPONENT-681,aCOMPONENT-682,aCOMPONENT-683,
     aCOMPONENT-684,aCOMPONENT-685,aCOMPONENT-686,aCOMPONENT-687,aCOMPONENT-688,aCOMPONENT-689,
     aCOMPONENT-690,aCOMPONENT-691,aCOMPONENT-692,aCOMPONENT-693,aCOMPONENT-694,aCOMPONENT-695,
     aCOMPONENT-696,aCOMPONENT-697,aCOMPONENT-698,aCOMPONENT-699,aCOMPONENT-700,aCOMPONENT-701,
     aCOMPONENT-702,aCOMPONENT-703,aCOMPONENT-704,aCOMPONENT-705,aCOMPONENT-706,aCOMPONENT-707,
     aCOMPONENT-708,aCOMPONENT-709,aCOMPONENT-710,aCOMPONENT-711,aCOMPONENT-712,aCOMPONENT-713,
     aCOMPONENT-714,aCOMPONENT-715,aCOMPONENT-716,aCOMPONENT-717,aCOMPONENT-718,aCOMPONENT-719,
     aCOMPONENT-720,aCOMPONENT-721,aCOMPONENT-722,aCOMPONENT-723,aCOMPONENT-724,aCOMPONENT-725,
     aCOMPONENT-726,aCOMPONENT-727,aCOMPONENT-728,aCOMPONENT-729,aCOMPONENT-730,aCOMPONENT-731,
     aCOMPONENT-732,aCOMPONENT-733,aCOMPONENT-734,aCOMPONENT-735,aCOMPONENT-736,aCOMPONENT-737,
     aCOMPONENT-738,aCOMPONENT-739,aCOMPONENT-740,aCOMPONENT-741,aCOMPONENT-742,aCOMPONENT-743,
     aCOMPONENT-744,aCOMPONENT-745,aCOMPONENT-746,aCOMPONENT-747,aCOMPONENT-748,aCOMPONENT-749,
     aCOMPONENT-750,aCOMPONENT-751,aCOMPONENT-752,aCOMPONENT-753,aCOMPONENT-754,aCOMPONENT-755,
     aCOMPONENT-756,aCOMPONENT-757,aCOMPONENT-758,aCOMPONENT-759,aCOMPONENT-760,aCOMPONENT-761,
     aCOMPONENT-762,aCOMPONENT-763,aCOMPONENT-764,aCOMPONENT-765,aCOMPONENT-766,aCOMPONENT-767,
     aCOMPONENT-768"),
   (0x1aff0, "KATAKANA LETTER MINNAN TONE-2,cTONE-3,cTONE-4,cTONE-5,,cTONE-7,cTONE-8,
     cNASALIZED TONE-1,dTONE-2,dTONE-3,dTONE-4,dTONE-5,,dTONE-7,dTONE-8,,bARCHAIC E,
     HIRAGANA LETTER ARCHAIC YE,HENTAIGANA LETTER A-1,bA-2,bA-3,bA-WO,bI-1,bI-2,bI-3,bI-4,bU-1,bU-2,
     bU-3,bU-4,bU-5,bE-2,bE-3,bE-4,bE-5,bE-6,bO-1,bO-2,bO-3,bKA-1,bKA-2,bKA-3,bKA-4,bKA-5,bKA-6,
     bKA-7,bKA-8,bKA-9,bKA-10,bKA-11,bKA-KE,bKI-1,bKI-2,bKI-3,bKI-4,bKI-5,bKI-6,bKI-7,bKI-8,bKU-1,
     bKU-2,bKU-3,bKU-4,bKU-5,bKU-6,bKU-7,bKE-1,bKE-2,bKE-3,bKE-4,bKE-5,bKE-6,bKO-1,bKO-2,bKO-3,
     bKO-KI,bSA-1,bSA-2,bSA-3,bSA-4,bSA-5,bSA-6,bSA-7,bSA-8,bSI-1,bSI-2,bSI-3,bSI-4,bSI-5,bSI-6,
     bSU-1,bSU-2,bSU-3,bSU-4,bSU-5,bSU-6,bSU-7,bSU-8,bSE-1,bSE-2,bSE-3,bSE-4,bSE-5,bSO-1,bSO-2,
     bSO-3,bSO-4,bSO-5,bSO-6,bSO-7,bTA-1,bTA-2,bTA-3,bTA-4,bTI-1,bTI-2,bTI-3,bTI-4,bTI-5,bTI-6,
     bTI-7,bTU-1,bTU-2,bTU-3,bTU-4,bTU-TO,bTE-1,bTE-2,bTE-3,bTE-4,bTE-5,bTE-6,bTE-7,bTE-8,bTE-9,
     bTO-1,bTO-2,bTO-3,bTO-4,bTO-5,bTO-6,bTO-RA,bNA-1,bNA-2,bNA-3,bNA-4,bNA-5,bNA-6,bNA-7,bNA-8,
     bNA-9,bNI-1,bNI-2,bNI-3,bNI-4,bNI-5,bNI-6,bNI-7,bNI-TE,bNU-1,bNU-2,bNU-3,bNE-1,bNE-2,bNE-3,
     bNE-4,bNE-5,bNE-6,bNE-KO,bNO-1,bNO-2,bNO-3,bNO-4,bNO-5,bHA-1,bHA-2,bHA-3,bHA-4,bHA-5,bHA-6,
     bHA-7,bHA-8,bHA-9,bHA-10,bHA-11,bHI-1,bHI-2,bHI-3,bHI-4,bHI-5,bHI-6,bHI-7,bHU-1,bHU-2,bHU-3,
     bHE-1,bHE-2,bHE-3,bHE-4,bHE-5,bHE-6,bHE-7,bHO-1,bHO-2,bHO-3,bHO-4,bHO-5,bHO-6,bHO-7,bHO-8,
     bMA-1,bMA-2,bMA-3,bMA-4,bMA-5,bMA-6,bMA-7,bMI-1,bMI-2,bMI-3,bMI-4,bMI-5,bMI-6,bMI-7,bMU-1,
     bMU-2,bMU-3,bMU-4,bME-1,bME-2,bME-MA,bMO-1,bMO-2,bMO-3,bMO-4,bMO-5,bMO-6,bYA-1,bYA-2,bYA-3,
     bYA-4,bYA-5,bYA-YO,bYU-1,bYU-2,bYU-3,bYU-4,bYO-1,bYO-2,bYO-3,bYO-4,bYO-5,bYO-6,bRA-1,bRA-2,
     bRA-3,bRA-4,bRI-1,bRI-2,bRI-3,bRI-4,bRI-5,bRI-6,bRI-7,bRU-1,bRU-2,bRU-3,bRU-4,bRU-5,bRU-6,
     bRE-1,bRE-2,bRE-3,bRE-4,bRO-1,bRO-2,bRO-3,bRO-4,bRO-5,bRO-6,bWA-1,bWA-2,bWA-3,bWA-4,bWA-5,
     bWI-1,bWI-2,bWI-3,bWI-4,bWI-5,bWE-1,bWE-2,bWE-3,bWE-4,bWO-1,bWO-2,bWO-3,bWO-4,bWO-5,bWO-6,
     bWO-7,bN-MU-MO-1,bN-MU-MO-2,HIRAGANA LETTER ARCHAIC WU,KATAKANA LETTER ARCHAIC YI,cYE,cWU"),
   (0x1b150, "HIRAGANA LETTER SMALL WI,cWE,cWO"),
   (0x1b164, "KATAKANA LETTER SMALL WI,cWE,cWO,cN"),
   (0x1bc00, "DUPLOYAN LETTER H,bX,bP,bT,bF,bK,bL,bB,bD,bV,bG,bR,bP N,bD S,bF N,bK M,bR S,bTH,
     bSLOAN DH,bDH,bKK,bSLOAN J,bHL,bLH,bRH,bM,bN,bJ,bS,bM N,bN M,bJ M,bS J,bM WITH DOT,bN WITH DOT,
     bJ WITH DOT,dDOTS INSIDE AND ABOVE,bS WITH DOT,eBELOW,bM S,bN S,bJ S,bS S,bM N S,bN M S,bJ M S,
     bS J S,bJ S WITH DOT,cN,dS,bS T,dR,cP,dR,bT S,cR S,bW,bWH,bW R,bS N,cM,bK R S,bG R S,bS K,dR,
     bA,bSLOAN OW,bOA,bO,bAOU,bI,bE,bIE,bSHORT I,bUI,bEE,bSLOAN EH,bROMANIAN I,bSLOAN EE,bLONG I,
     bYE,bU,bEU,bXW,bU N,bLONG U,bROMANIAN U,bUH,bSLOAN U,bOOH,bOW,bOU,bWA,bWO,bWI,bWEI,bWOW,
     bNASAL U,cO,cI,cA,bPERNIN AN,cAM,bSLOAN EN,cAN,cON,bVOCALIC M,,,,,,
     aAFFIX LEFT HORIZONTAL SECANT,bMID HORIZONTAL SECANT,bRIGHT HORIZONTAL SECANT,
     bLOW VERTICAL SECANT,bMID VERTICAL SECANT,bHIGH VERTICAL SECANT,bATTACHED SECANT,
     cLEFT-TO-RIGHT SECANT,cTANGENT,cTAIL,cE HOOK,cI HOOK,cTANGENT HOOK,,,,bHIGH ACUTE,cTIGHT ACUTE,
     cGRAVE,cLONG GRAVE,cDOT,cCIRCLE,cLINE,cWAVE,cVERTICAL,,,,,,,,bLOW ACUTE,cTIGHT ACUTE,cGRAVE,
     cLONG GRAVE,cDOT,cCIRCLE,cLINE,cWAVE,cVERTICAL,cARROW,,,aSIGN O WITH CROSS,
     aTHICK LETTER SELECTOR,aDOUBLE MARK,aPUNCTUATION CHINOOK FULL STOP,
     SHORTHAND FORMAT LETTER OVERLAP,bCONTINUING OVERLAP,bDOWN STEP,bUP STEP"),
   (0x1cf00, "ZNAMENNY COMBINING MARK GORAZDO NIZKO S KRYZHEM ON LEFT,cNIZKO S KRYZHEM ON LEFT,
     cTSATA ON LEFT,cGORAZDO NIZKO ON LEFT,cNIZKO ON LEFT,cSREDNE ON LEFT,cMALO POVYSHE ON LEFT,
     cPOVYSHE ON LEFT,cVYSOKO ON LEFT,cMALO POVYSHE S KHOKHLOM ON LEFT,cPOVYSHE S KHOKHLOM ON LEFT,
     cVYSOKO S KHOKHLOM ON LEFT,cGORAZDO NIZKO S KRYZHEM ON RIGHT,cNIZKO S KRYZHEM ON RIGHT,
     cTSATA ON RIGHT,cGORAZDO NIZKO ON RIGHT,cNIZKO ON RIGHT,cSREDNE ON RIGHT,
     cMALO POVYSHE ON RIGHT,cPOVYSHE ON RIGHT,cVYSOKO ON RIGHT,cMALO POVYSHE S KHOKHLOM ON RIGHT,
     cPOVYSHE S KHOKHLOM ON RIGHT,cVYSOKO S KHOKHLOM ON RIGHT,cTSATA S KRYZHEM,
     cMALO POVYSHE S KRYZHEM,cSTRANNO MALO POVYSHE,cPOVYSHE S KRYZHEM,dSTRANNO,cVYSOKO S KRYZHEM,
     cMALO POVYSHE STRANNO,cGORAZDO VYSOKO,cZELO,cON,cRAVNO,cTIKHAYA,cBORZAYA,cUDARKA,cPODVERTKA,
     cLOMKA,cKUPNAYA,cKACHKA,cZEVOK,cSKOBA,cRAZSEKA,cKRYZH ON LEFT,,,bTONAL RANGE MARK MRACHNO,
     eSVETLO,eTRESVETLO,bMARK ZADERZHKA,cDEMESTVENNY ZADERZHKA,cOTSECHKA,cPODCHASHIE,
     dWITH VERTICAL STROKE,cCHASHKA,dPOLNAYA,cOBLACHKO,cSOROCHYA NOZHKA,cTOCHKA,cDVOETOCHIE,
     bATTACHING VERTICAL OMET,bMARK CURVED OMET,cKRYZH,bLOWER TONAL RANGE INDICATOR,
     aPRIZNAK MODIFIER LEVEL-2,cLEVEL-3,cDIRECTION FLIP,cKRYZH,cROG"),
   (0x1cf50, "ZNAMENNY NEUME KRYUK,cTIKHY,bPARAKLIT,bDVA V CHELNU,bKLYUCH,bZANOZHEK,bSTOPITSA,
     cS OCHKOM,bPEREVODKA,cNEPOSTOYANNAYA,bSTOPITSA WITH SOROCHYA NOZHKA,bCHELYUSTKA,bPALKA,
     bZAPYATAYA,bGOLUBCHIK BORZY,cTIKHY,cMRACHNY,cSVETLY,cTRESVETLY,bVRAKHIYA PROSTAYA,cMRACHNAYA,
     cSVETLAYA,cTRESVETLAYA,cKLYUCHEVAYA PROSTAYA,dMRACHNAYA,dSVETLAYA,dTRESVETLAYA,
     bDOUBLE ZAPYATAYA,bREVERSED CHELYUSTKA,bDERBITSA,bKHAMILO,bCHASHKA,bPODCHASHIE,
     bSKAMEYTSA MRACHNAYA,cSVETLAYA,cTRESVETLAYA,cTIKHAYA,bDEMESTVENNY KLYUCH,
     bSKAMEYTSA KLYUCHEVAYA SVETLAYA,cKLYUCHENEPOSTOYANNAYA,cKLYUCHEVAYA TIKHAYA,
     cDVOECHELNAYA PROSTAYA,dSVETLAYA,dNEPOSTOYANNAYA,dKLYUCHEVAYA,bSLOZHITIE,cS ZAPYATOY,cZAKRYTOE,
     cS KRYZHEM,bKRYZH,bROG,bFITA,bKOBYLA,bZMEYTSA,bSTATYA,cS ZAPYATOY,dKRYZHEM,dZAPYATOY I KRYZHEM,
     dKRYZHEM I ZAPYATOY,cZAKRYTAYA,dS ZAPYATOY,cS ROGOM,dDVUMYA ZAPYATYMI,dZAPYATOY I PODCHASHIEM,
     bPOLKULIZMY,bSTATYA NEPOSTOYANNAYA,bSTRELA PROSTAYA,cMRACHNOTIKHAYA,cKRYZHEVAYA,cPOLUPOVODNAYA,
     cPOVODNAYA,cNEPOSTOYANNAYA,cKLYUCHEPOVODNAYA,cKLYUCHENEPOSTOYANNAYA,cTIKHAYA PUTNAYA,
     cDVOECHELNAYA,cDVOECHELNOKRYZHEVAYA,cDVOECHELNOPOVODNAYA,cDVOECHELNAYA KLYUCHEVAYA,
     cDVOECHELNOPOVODNAYA KLYUCHEVAYA,cGROMNAYA WITH SINGLE ZAPYATAYA,
     cGROMOPOVODNAYA WITH SINGLE ZAPYATAYA,cGROMNAYA,cGROMOPOVODNAYA,dWITH DOUBLE ZAPYATAYA,
     cGROMOKRYZHEVAYA,dPOVODNAYA,bMECHIK,cPOVODNY,cKLYUCHEVOY,cKLYUCHEPOVODNY,cKLYUCHENEPOSTOYANNY,
     bSTRELA TRYASOGLASNAYA,cTRYASOPOVODNAYA,cTRYASOSTRELNAYA,bOSOKA,cSVETLAYA,cTRESVETLAYA,
     cKRYUKOVAYA SVETLAYA,cKLYUCHEVAYA SVETLAYA,dNEPOSTOYANNAYA,bSTRELA KRYUKOVAYA,dPOVODNAYA,
     dGROMNAYA WITH SINGLE ZAPYATAYA,dGROMOPOVODNAYA WITH SINGLE ZAPYATAYA,dGROMNAYA,
     dGROMOPOVODNAYA,eWITH DOUBLE ZAPYATAYA,dGROMOKRYZHEVAYA,ePOVODNAYA,dTRYASKA,bKUFISMA,bOBLAKO,
     bDUDA,bNEMKA,bPAUK"),
   (0x1d000, "BYZANTINE MUSICAL SYMBOL PSILI,cDASEIA,cPERISPOMENI,cOXEIA EKFONITIKON,dDIPLI,
     cVAREIA EKFONITIKON,dDIPLI,cKATHISTI,cSYRMATIKI,cPARAKLITIKI,cYPOKRISIS,dDIPLI,cKREMASTI,
     cAPESO EKFONITIKON,cEXO EKFONITIKON,cTELEIA,cKENTIMATA,cAPOSTROFOS,dDIPLI,cSYNEVMA,cTHITA,
     cOLIGON ARCHAION,cGORGON ARCHAION,cPSILON,cCHAMILON,cVATHY,cISON ARCHAION,cKENTIMA ARCHAION,
     cKENTIMATA ARCHAION,cSAXIMATA,cPARICHON,cSTAVROS APODEXIA,cOXEIAI ARCHAION,cVAREIAI ARCHAION,
     cAPODERMA ARCHAION,cAPOTHEMA,cKLASMA,cREVMA,cPIASMA ARCHAION,cTINAGMA,cANATRICHISMA,cSEISMA,
     cSYNAGMA ARCHAION,dMETA STAVROU,cOYRANISMA ARCHAION,cTHEMA,cLEMOI,cDYO,cTRIA,cTESSERA,
     cKRATIMATA,cAPESO EXO NEO,cFTHORA ARCHAION,cIMIFTHORA,cTROMIKON ARCHAION,cKATAVA TROMIKON,
     cPELASTON,cPSIFISTON,cKONTEVMA,cCHOREVMA ARCHAION,cRAPISMA,cPARAKALESMA ARCHAION,
     cPARAKLITIKI ARCHAION,cICHADIN,cNANA,cPETASMA,cKONTEVMA ALLO,cTROMIKON ALLO,cSTRAGGISMATA,
     cGRONTHISMATA,cISON NEO,cOLIGON NEO,cOXEIA NEO,cPETASTI,cKOUFISMA,cPETASTOKOUFISMA,
     cKRATIMOKOUFISMA,cPELASTON NEO,cKENTIMATA NEO ANO,cKENTIMA NEO ANO,cYPSILI,cAPOSTROFOS NEO,
     cAPOSTROFOI SYNDESMOS NEO,cYPORROI,cKRATIMOYPORROON,cELAFRON,cCHAMILI,cMIKRON ISON,cVAREIA NEO,
     cPIASMA NEO,cPSIFISTON NEO,cOMALON,cANTIKENOMA,cLYGISMA,cPARAKLITIKI NEO,cPARAKALESMA NEO,
     cETERON PARAKALESMA,cKYLISMA,cANTIKENOKYLISMA,cTROMIKON NEO,cEKSTREPTON,cSYNAGMA NEO,cSYRMA,
     cCHOREVMA NEO,cEPEGERMA,cSEISMA NEO,cXIRON KLASMA,cTROMIKOPSIFISTON,cPSIFISTOLYGISMA,
     cTROMIKOLYGISMA,cTROMIKOPARAKALESMA,cPSIFISTOPARAKALESMA,cTROMIKOSYNAGMA,cPSIFISTOSYNAGMA,
     cGORGOSYNTHETON,cARGOSYNTHETON,cETERON ARGOSYNTHETON,cOYRANISMA NEO,cTHEMATISMOS ESO,dEXO,
     cTHEMA APLOUN,cTHES KAI APOTHES,cKATAVASMA,cENDOFONON,cYFEN KATO,dANO,cSTAVROS,cKLASMA ANO,
     cDIPLI ARCHAION,cKRATIMA ARCHAION,dALLO,dNEO,cAPODERMA NEO,cAPLI,cDIPLI,cTRIPLI,cTETRAPLI,
     cKORONIS,cLEIMMA ENOS CHRONOU,dDYO CHRONON,dTRION CHRONON,dTESSARON CHRONON,dIMISEOS CHRONOU,
     cGORGON NEO ANO,dPARESTIGMENON ARISTERA,eDEXIA,cDIGORGON,dPARESTIGMENON ARISTERA KATO,fANO,
     eDEXIA,cTRIGORGON,cARGON,cIMIDIARGON,cDIARGON,cAGOGI POLI ARGI,dARGOTERI,dARGI,dMETRIA,dMESI,
     dGORGI,dGORGOTERI,dPOLI GORGI,cMARTYRIA PROTOS ICHOS,dALLI PROTOS ICHOS,dDEYTEROS ICHOS,
     dALLI DEYTEROS ICHOS,dTRITOS ICHOS,dTRIFONIAS,dTETARTOS ICHOS,eLEGETOS ICHOS,dLEGETOS ICHOS,
     dPLAGIOS ICHOS,cISAKIA TELOUS ICHIMATOS,cAPOSTROFOI TELOUS ICHIMATOS,cFANEROSIS TETRAFONIAS,
     dMONOFONIAS,dDIFONIAS,cMARTYRIA VARYS ICHOS,dPROTOVARYS ICHOS,dPLAGIOS TETARTOS ICHOS,
     cGORTHMIKON N APLOUN,eDIPLOUN,cENARXIS KAI FTHORA VOU,cIMIFONON,cIMIFTHORON,
     cFTHORA ARCHAION DEYTEROU ICHOU,dDIATONIKI PA,eNANA,dNAOS ICHOS,dDIATONIKI DI,
     dSKLIRON DIATONON DI,dDIATONIKI KE,eZO,eNI KATO,fANO,dMALAKON CHROMA DIFONIAS,fMONOFONIAS,
     cFHTORA SKLIRON CHROMA VASIS,cFTHORA SKLIRON CHROMA SYNAFI,dNENANO,cCHROA ZYGOS,dKLITON,
     dSPATHI,cFTHORA I YFESIS TETARTIMORION,dENARMONIOS ANTIFONIA,cYFESIS TRITIMORION,
     cDIESIS TRITIMORION,dTETARTIMORION,dAPLI DYO DODEKATA,dMONOGRAMMOS TESSERA DODEKATA,
     dDIGRAMMOS EX DODEKATA,dTRIGRAMMOS OKTO DODEKATA,cYFESIS APLI DYO DODEKATA,
     dMONOGRAMMOS TESSERA DODEKATA,dDIGRAMMOS EX DODEKATA,dTRIGRAMMOS OKTO DODEKATA,cGENIKI DIESIS,
     dYFESIS,cDIASTOLI APLI MIKRI,eMEGALI,dDIPLI,dTHESEOS,cSIMANSIS THESEOS,eDISIMOU,eTRISIMOU,
     eTETRASIMOU,dARSEOS,eDISIMOU,eTRISIMOU,eTETRASIMOU,cDIGRAMMA GG,cDIFTOGGOS OU,cSTIGMA,
     cARKTIKO PA,dVOU,dGA,dDI,dKE,dZO,dNI,cKENTIMATA NEO MESO,cKENTIMA NEO MESO,cKENTIMATA NEO KATO,
     cKENTIMA NEO KATO,cKLASMA KATO,cGORGON NEO KATO"),
   (0x1d100, "MUSICAL SYMBOL SINGLE BARLINE,bDOUBLE BARLINE,bFINAL BARLINE,bREVERSE FINAL BARLINE,
     bDASHED BARLINE,bSHORT BARLINE,bLEFT REPEAT SIGN,bRIGHT REPEAT SIGN,bREPEAT DOTS,bDAL SEGNO,
     bDA CAPO,bSEGNO,bCODA,bREPEATED FIGURE-1,cFIGURE-2,cFIGURE-3,bFERMATA,cBELOW,bBREATH MARK,
     bCAESURA,bBRACE,bBRACKET,bONE-LINE STAFF,bTWO-LINE STAFF,bTHREE-LINE STAFF,bFOUR-LINE STAFF,
     bFIVE-LINE STAFF,bSIX-LINE STAFF,bSIX-STRING FRETBOARD,bFOUR-STRING FRETBOARD,bG CLEF,
     dOTTAVA ALTA,eBASSA,bC CLEF,bF CLEF,dOTTAVA ALTA,eBASSA,bDRUM CLEF-1,cCLEF-2,,,
     bMULTIPLE MEASURE REST,bDOUBLE SHARP,cFLAT,bFLAT UP,cDOWN,bNATURAL UP,cDOWN,bSHARP UP,cDOWN,
     bQUARTER TONE SHARP,dFLAT,bCOMMON TIME,bCUT TIME,bOTTAVA ALTA,cBASSA,bQUINDICESIMA ALTA,cBASSA,
     bMULTI REST,bWHOLE REST,bHALF REST,bQUARTER REST,bEIGHTH REST,bSIXTEENTH REST,
     bTHIRTY-SECOND REST,bSIXTY-FOURTH REST,bONE HUNDRED TWENTY-EIGHTH REST,bX NOTEHEAD,
     bPLUS NOTEHEAD,bCIRCLE X NOTEHEAD,bSQUARE NOTEHEAD WHITE,dBLACK,bTRIANGLE NOTEHEAD UP WHITE,
     eBLACK,dLEFT WHITE,eBLACK,dRIGHT WHITE,eBLACK,dDOWN WHITE,eBLACK,dUP RIGHT WHITE,fBLACK,
     bMOON NOTEHEAD WHITE,dBLACK,bTRIANGLE-ROUND NOTEHEAD DOWN WHITE,eBLACK,bPARENTHESIS NOTEHEAD,
     bVOID NOTEHEAD,bNOTEHEAD BLACK,bNULL NOTEHEAD,bCLUSTER NOTEHEAD WHITE,dBLACK,bBREVE,
     bWHOLE NOTE,bHALF NOTE,bQUARTER NOTE,bEIGHTH NOTE,bSIXTEENTH NOTE,bTHIRTY-SECOND NOTE,
     bSIXTY-FOURTH NOTE,bONE HUNDRED TWENTY-EIGHTH NOTE,bCOMBINING STEM,cSPRECHGESANG STEM,
     cTREMOLO-1,cTREMOLO-2,cTREMOLO-3,bFINGERED TREMOLO-1,cTREMOLO-2,cTREMOLO-3,
     bCOMBINING AUGMENTATION DOT,cFLAG-1,cFLAG-2,cFLAG-3,cFLAG-4,cFLAG-5,bBEGIN BEAM,bEND BEAM,
     bBEGIN TIE,bEND TIE,bBEGIN SLUR,bEND SLUR,bBEGIN PHRASE,bEND PHRASE,bCOMBINING ACCENT,
     cSTACCATO,cTENUTO,cSTACCATISSIMO,cMARCATO,cMARCATO-STACCATO,cACCENT-STACCATO,cLOURE,
     bARPEGGIATO UP,cDOWN,bCOMBINING DOIT,cRIP,cFLIP,cSMEAR,cBEND,cDOUBLE TONGUE,cTRIPLE TONGUE,
     bRINFORZANDO,bSUBITO,bZ,bPIANO,bMEZZO,bFORTE,bCRESCENDO,bDECRESCENDO,bGRACE NOTE SLASH,
     dNO SLASH,bTR,bTURN,bINVERTED TURN,bTURN SLASH,cUP,bORNAMENT STROKE-1,cSTROKE-2,cSTROKE-3,
     cSTROKE-4,cSTROKE-5,cSTROKE-6,cSTROKE-7,cSTROKE-8,cSTROKE-9,cSTROKE-10,cSTROKE-11,bHAUPTSTIMME,
     bNEBENSTIMME,bEND OF STIMME,bDEGREE SLASH,bCOMBINING DOWN BOW,cUP BOW,cHARMONIC,
     cSNAP PIZZICATO,bPEDAL MARK,cUP MARK,bHALF PEDAL MARK,bGLISSANDO UP,cDOWN,bWITH FINGERNAILS,
     bDAMP,cALL,bMAXIMA,bLONGA,bBREVIS,bSEMIBREVIS WHITE,cBLACK,bMINIMA,cBLACK,bSEMIMINIMA WHITE,
     cBLACK,bFUSA WHITE,cBLACK,bLONGA PERFECTA REST,cIMPERFECTA REST,bBREVIS REST,bSEMIBREVIS REST,
     bMINIMA REST,bSEMIMINIMA REST,bTEMPUS PERFECTUM CUM PROLATIONE PERFECTA,fIMPERFECTA,
     fPERFECTA DIMINUTION-1,cIMPERFECTUM CUM PROLATIONE PERFECTA,fIMPERFECTA,gDIMINUTION-1,
     gDIMINUTION-2,gDIMINUTION-3,bCROIX,bGREGORIAN C CLEF,cF CLEF,bSQUARE B,bVIRGA,bPODATUS,bCLIVIS,
     bSCANDICUS,bCLIMACUS,bTORCULUS,bPORRECTUS,cFLEXUS,bSCANDICUS FLEXUS,bTORCULUS RESUPINUS,
     bPES SUBPUNCTIS,bKIEVAN C CLEF,cEND OF PIECE,cFINAL NOTE,cRECITATIVE MARK,cWHOLE NOTE,
     cHALF NOTE,cQUARTER NOTE STEM DOWN,fUP,cEIGHTH NOTE STEM DOWN,fUP,cFLAT SIGN,bSORI,bKORON"),
   (0x1d200, "GREEK VOCAL NOTATION SYMBOL-1,cSYMBOL-2,cSYMBOL-3,cSYMBOL-4,cSYMBOL-5,cSYMBOL-6,
     cSYMBOL-7,cSYMBOL-8,cSYMBOL-9,cSYMBOL-10,cSYMBOL-11,cSYMBOL-12,cSYMBOL-13,cSYMBOL-14,
     cSYMBOL-15,cSYMBOL-16,cSYMBOL-17,cSYMBOL-18,cSYMBOL-19,cSYMBOL-20,cSYMBOL-21,cSYMBOL-22,
     cSYMBOL-23,cSYMBOL-24,cSYMBOL-50,cSYMBOL-51,cSYMBOL-52,cSYMBOL-53,cSYMBOL-54,
     aINSTRUMENTAL NOTATION SYMBOL-1,cSYMBOL-2,cSYMBOL-4,cSYMBOL-5,cSYMBOL-7,cSYMBOL-8,cSYMBOL-11,
     cSYMBOL-12,cSYMBOL-13,cSYMBOL-14,cSYMBOL-17,cSYMBOL-18,cSYMBOL-19,cSYMBOL-23,cSYMBOL-24,
     cSYMBOL-25,cSYMBOL-26,cSYMBOL-27,cSYMBOL-29,cSYMBOL-30,cSYMBOL-32,cSYMBOL-36,cSYMBOL-37,
     cSYMBOL-38,cSYMBOL-39,cSYMBOL-40,cSYMBOL-42,cSYMBOL-43,cSYMBOL-45,cSYMBOL-47,cSYMBOL-48,
     cSYMBOL-49,cSYMBOL-50,cSYMBOL-51,cSYMBOL-52,cSYMBOL-53,cSYMBOL-54,
     COMBINING GREEK MUSICAL TRISEME,cTETRASEME,cPENTASEME,GREEK MUSICAL LEIMMA"),
   (0x1d2e0, "MAYAN NUMERAL ZERO,bONE,bTWO,bTHREE,bFOUR,bFIVE,bSIX,bSEVEN,bEIGHT,bNINE,bTEN,bELEVEN,
     bTWELVE,bTHIRTEEN,bFOURTEEN,bFIFTEEN,bSIXTEEN,bSEVENTEEN,bEIGHTEEN,bNINETEEN"),
   (0x1d300, "MONOGRAM FOR EARTH,DIGRAM FOR HEAVENLY EARTH,bHUMAN EARTH,bEARTHLY HEAVEN,cHUMAN,
     bEARTH,TETRAGRAM FOR CENTRE,bFULL CIRCLE,bMIRED,bBARRIER,bKEEPING SMALL,bCONTRARIETY,bASCENT,
     bOPPOSITION,bBRANCHING OUT,bDEFECTIVENESS OR DISTORTION,bDIVERGENCE,bYOUTHFULNESS,bINCREASE,
     bPENETRATION,bREACH,bCONTACT,bHOLDING BACK,bWAITING,bFOLLOWING,bADVANCE,bRELEASE,bRESISTANCE,
     bEASE,bJOY,bCONTENTION,bENDEAVOUR,bDUTIES,bCHANGE,bDECISIVENESS,bBOLD RESOLUTION,bPACKING,
     bLEGION,bCLOSENESS,bKINSHIP,bGATHERING,bSTRENGTH,bPURITY,bFULLNESS,bRESIDENCE,bLAW OR MODEL,
     bRESPONSE,bGOING TO MEET,bENCOUNTERS,bSTOVE,bGREATNESS,bENLARGEMENT,bPATTERN,bRITUAL,bFLIGHT,
     bVASTNESS OR WASTING,bCONSTANCY,bMEASURE,bETERNITY,bUNITY,bDIMINISHMENT,bCLOSED MOUTH,
     bGUARDEDNESS,bGATHERING IN,bMASSING,bACCUMULATION,bEMBELLISHMENT,bDOUBT,bWATCH,bSINKING,bINNER,
     bDEPARTURE,bDARKENING,bDIMMING,bEXHAUSTION,bSEVERANCE,bSTOPPAGE,bHARDNESS,bCOMPLETION,bCLOSURE,
     bFAILURE,bAGGRAVATION,bCOMPLIANCE,bON THE VERGE,bDIFFICULTIES,bLABOURING,bFOSTERING"),
   (0x1d360, "COUNTING ROD UNIT DIGIT ONE,dTWO,dTHREE,dFOUR,dFIVE,dSIX,dSEVEN,dEIGHT,dNINE,
     bTENS DIGIT ONE,dTWO,dTHREE,dFOUR,dFIVE,dSIX,dSEVEN,dEIGHT,dNINE,IDEOGRAPHIC TALLY MARK ONE,
     cTWO,cTHREE,cFOUR,cFIVE,TALLY MARK ONE,bFIVE"),
   (0x1d400, "MATHEMATICAL BOLD CAPITAL A,cB,cC,cD,cE,cF,cG,cH,cI,cJ,cK,cL,cM,cN,cO,cP,cQ,cR,cS,cT,
     cU,cV,cW,cX,cY,cZ,bSMALL A,cB,cC,cD,cE,cF,cG,cH,cI,cJ,cK,cL,cM,cN,cO,cP,cQ,cR,cS,cT,cU,cV,cW,
     cX,cY,cZ,aITALIC CAPITAL A,cB,cC,cD,cE,cF,cG,cH,cI,cJ,cK,cL,cM,cN,cO,cP,cQ,cR,cS,cT,cU,cV,cW,
     cX,cY,cZ,bSMALL A,cB,cC,cD,cE,cF,cG,,cI,cJ,cK,cL,cM,cN,cO,cP,cQ,cR,cS,cT,cU,cV,cW,cX,cY,cZ,
     aBOLD ITALIC CAPITAL A,dB,dC,dD,dE,dF,dG,dH,dI,dJ,dK,dL,dM,dN,dO,dP,dQ,dR,dS,dT,dU,dV,dW,dX,dY,
     dZ,cSMALL A,dB,dC,dD,dE,dF,dG,dH,dI,dJ,dK,dL,dM,dN,dO,dP,dQ,dR,dS,dT,dU,dV,dW,dX,dY,dZ,
     aSCRIPT CAPITAL A,,cC,cD,,,cG,,,cJ,cK,,,cN,cO,cP,cQ,,cS,cT,cU,cV,cW,cX,cY,cZ,bSMALL A,cB,cC,cD,
     ,cF,,cH,cI,cJ,cK,cL,cM,cN,,cP,cQ,cR,cS,cT,cU,cV,cW,cX,cY,cZ,aBOLD SCRIPT CAPITAL A,dB,dC,dD,dE,
     dF,dG,dH,dI,dJ,dK,dL,dM,dN,dO,dP,dQ,dR,dS,dT,dU,dV,dW,dX,dY,dZ,cSMALL A,dB,dC,dD,dE,dF,dG,dH,
     dI,dJ,dK,dL,dM,dN,dO,dP,dQ,dR,dS,dT,dU,dV,dW,dX,dY,dZ,aFRAKTUR CAPITAL A,cB,,cD,cE,cF,cG,,,cJ,
     cK,cL,cM,cN,cO,cP,cQ,,cS,cT,cU,cV,cW,cX,cY,,bSMALL A,cB,cC,cD,cE,cF,cG,cH,cI,cJ,cK,cL,cM,cN,cO,
     cP,cQ,cR,cS,cT,cU,cV,cW,cX,cY,cZ,aDOUBLE-STRUCK CAPITAL A,cB,,cD,cE,cF,cG,,cI,cJ,cK,cL,cM,,cO,,
     ,,cS,cT,cU,cV,cW,cX,cY,,bSMALL A,cB,cC,cD,cE,cF,cG,cH,cI,cJ,cK,cL,cM,cN,cO,cP,cQ,cR,cS,cT,cU,
     cV,cW,cX,cY,cZ,aBOLD FRAKTUR CAPITAL A,dB,dC,dD,dE,dF,dG,dH,dI,dJ,dK,dL,dM,dN,dO,dP,dQ,dR,dS,
     dT,dU,dV,dW,dX,dY,dZ,cSMALL A,dB,dC,dD,dE,dF,dG,dH,dI,dJ,dK,dL,dM,dN,dO,dP,dQ,dR,dS,dT,dU,dV,
     dW,dX,dY,dZ,aSANS-SERIF CAPITAL A,cB,cC,cD,cE,cF,cG,cH,cI,cJ,cK,cL,cM,cN,cO,cP,cQ,cR,cS,cT,cU,
     cV,cW,cX,cY,cZ,bSMALL A,cB,cC,cD,cE,cF,cG,cH,cI,cJ,cK,cL,cM,cN,cO,cP,cQ,cR,cS,cT,cU,cV,cW,cX,
     cY,cZ,bBOLD CAPITAL A,dB,dC,dD,dE,dF,dG,dH,dI,dJ,dK,dL,dM,dN,dO,dP,dQ,dR,dS,dT,dU,dV,dW,dX,dY,
     dZ,cSMALL A,dB,dC,dD,dE,dF,dG,dH,dI,dJ,dK,dL,dM,dN,dO,dP,dQ,dR,dS,dT,dU,dV,dW,dX,dY,dZ,
     bITALIC CAPITAL A,dB,dC,dD,dE,dF,dG,dH,dI,dJ,dK,dL,dM,dN,dO,dP,dQ,dR,dS,dT,dU,dV,dW,dX,dY,dZ,
     cSMALL A,dB,dC,dD,dE,dF,dG,dH,dI,dJ,dK,dL,dM,dN,dO,dP,dQ,dR,dS,dT,dU,dV,dW,dX,dY,dZ,
     bBOLD ITALIC CAPITAL A,eB,eC,eD,eE,eF,eG,eH,eI,eJ,eK,eL,eM,eN,eO,eP,eQ,eR,eS,eT,eU,eV,eW,eX,eY,
     eZ,dSMALL A,eB,eC,eD,eE,eF,eG,eH,eI,eJ,eK,eL,eM,eN,eO,eP,eQ,eR,eS,eT,eU,eV,eW,eX,eY,eZ,
     aMONOSPACE CAPITAL A,cB,cC,cD,cE,cF,cG,cH,cI,cJ,cK,cL,cM,cN,cO,cP,cQ,cR,cS,cT,cU,cV,cW,cX,cY,
     cZ,bSMALL A,cB,cC,cD,cE,cF,cG,cH,cI,cJ,cK,cL,cM,cN,cO,cP,cQ,cR,cS,cT,cU,cV,cW,cX,cY,cZ,
     aITALIC SMALL DOTLESS I,dJ,,,aBOLD CAPITAL ALPHA,cBETA,cGAMMA,cDELTA,cEPSILON,cZETA,cETA,
     cTHETA,cIOTA,cKAPPA,cLAMDA,cMU,cNU,cXI,cOMICRON,cPI,cRHO,cTHETA SYMBOL,cSIGMA,cTAU,cUPSILON,
     cPHI,cCHI,cPSI,cOMEGA,bNABLA,bSMALL ALPHA,cBETA,cGAMMA,cDELTA,cEPSILON,cZETA,cETA,cTHETA,cIOTA,
     cKAPPA,cLAMDA,cMU,cNU,cXI,cOMICRON,cPI,cRHO,cFINAL SIGMA,cSIGMA,cTAU,cUPSILON,cPHI,cCHI,cPSI,
     cOMEGA,bPARTIAL DIFFERENTIAL,bEPSILON SYMBOL,bTHETA SYMBOL,bKAPPA SYMBOL,bPHI SYMBOL,
     bRHO SYMBOL,bPI SYMBOL,aITALIC CAPITAL ALPHA,cBETA,cGAMMA,cDELTA,cEPSILON,cZETA,cETA,cTHETA,
     cIOTA,cKAPPA,cLAMDA,cMU,cNU,cXI,cOMICRON,cPI,cRHO,cTHETA SYMBOL,cSIGMA,cTAU,cUPSILON,cPHI,cCHI,
     cPSI,cOMEGA,bNABLA,bSMALL ALPHA,cBETA,cGAMMA,cDELTA,cEPSILON,cZETA,cETA,cTHETA,cIOTA,cKAPPA,
     cLAMDA,cMU,cNU,cXI,cOMICRON,cPI,cRHO,cFINAL SIGMA,cSIGMA,cTAU,cUPSILON,cPHI,cCHI,cPSI,cOMEGA,
     bPARTIAL DIFFERENTIAL,bEPSILON SYMBOL,bTHETA SYMBOL,bKAPPA SYMBOL,bPHI SYMBOL,bRHO SYMBOL,
     bPI SYMBOL,aBOLD ITALIC CAPITAL ALPHA,dBETA,dGAMMA,dDELTA,dEPSILON,dZETA,dETA,dTHETA,dIOTA,
     dKAPPA,dLAMDA,dMU,dNU,dXI,dOMICRON,dPI,dRHO,dTHETA SYMBOL,dSIGMA,dTAU,dUPSILON,dPHI,dCHI,dPSI,
     dOMEGA,cNABLA,cSMALL ALPHA,dBETA,dGAMMA,dDELTA,dEPSILON,dZETA,dETA,dTHETA,dIOTA,dKAPPA,dLAMDA,
     dMU,dNU,dXI,dOMICRON,dPI,dRHO,dFINAL SIGMA,dSIGMA,dTAU,dUPSILON,dPHI,dCHI,dPSI,dOMEGA,
     cPARTIAL DIFFERENTIAL,cEPSILON SYMBOL,cTHETA SYMBOL,cKAPPA SYMBOL,cPHI SYMBOL,cRHO SYMBOL,
     cPI SYMBOL,aSANS-SERIF BOLD CAPITAL ALPHA,dBETA,dGAMMA,dDELTA,dEPSILON,dZETA,dETA,dTHETA,dIOTA,
     dKAPPA,dLAMDA,dMU,dNU,dXI,dOMICRON,dPI,dRHO,dTHETA SYMBOL,dSIGMA,dTAU,dUPSILON,dPHI,dCHI,dPSI,
     dOMEGA,cNABLA,cSMALL ALPHA,dBETA,dGAMMA,dDELTA,dEPSILON,dZETA,dETA,dTHETA,dIOTA,dKAPPA,dLAMDA,
     dMU,dNU,dXI,dOMICRON,dPI,dRHO,dFINAL SIGMA,dSIGMA,dTAU,dUPSILON,dPHI,dCHI,dPSI,dOMEGA,
     cPARTIAL DIFFERENTIAL,cEPSILON SYMBOL,cTHETA SYMBOL,cKAPPA SYMBOL,cPHI SYMBOL,cRHO SYMBOL,
     cPI SYMBOL,cITALIC CAPITAL ALPHA,eBETA,eGAMMA,eDELTA,eEPSILON,eZETA,eETA,eTHETA,eIOTA,eKAPPA,
     eLAMDA,eMU,eNU,eXI,eOMICRON,ePI,eRHO,eTHETA SYMBOL,eSIGMA,eTAU,eUPSILON,ePHI,eCHI,ePSI,eOMEGA,
     dNABLA,dSMALL ALPHA,eBETA,eGAMMA,eDELTA,eEPSILON,eZETA,eETA,eTHETA,eIOTA,eKAPPA,eLAMDA,eMU,eNU,
     eXI,eOMICRON,ePI,eRHO,eFINAL SIGMA,eSIGMA,eTAU,eUPSILON,ePHI,eCHI,ePSI,eOMEGA,
     dPARTIAL DIFFERENTIAL,dEPSILON SYMBOL,dTHETA SYMBOL,dKAPPA SYMBOL,dPHI SYMBOL,dRHO SYMBOL,
     dPI SYMBOL,aBOLD CAPITAL DIGAMMA,bSMALL DIGAMMA,,,bDIGIT ZERO,cONE,cTWO,cTHREE,cFOUR,cFIVE,
     cSIX,cSEVEN,cEIGHT,cNINE,aDOUBLE-STRUCK DIGIT ZERO,cONE,cTWO,cTHREE,cFOUR,cFIVE,cSIX,cSEVEN,
     cEIGHT,cNINE,aSANS-SERIF DIGIT ZERO,cONE,cTWO,cTHREE,cFOUR,cFIVE,cSIX,cSEVEN,cEIGHT,cNINE,
     bBOLD DIGIT ZERO,dONE,dTWO,dTHREE,dFOUR,dFIVE,dSIX,dSEVEN,dEIGHT,dNINE,aMONOSPACE DIGIT ZERO,
     cONE,cTWO,cTHREE,cFOUR,cFIVE,cSIX,cSEVEN,cEIGHT,cNINE,SIGNWRITING HAND-FIST INDEX,
     aHAND-CIRCLE INDEX,aHAND-CUP INDEX,aHAND-OVAL INDEX,aHAND-HINGE INDEX,aHAND-ANGLE INDEX,
     aHAND-FIST INDEX BENT,aHAND-CIRCLE INDEX BENT,aHAND-FIST THUMB UNDER INDEX BENT,
     bINDEX RAISED KNUCKLE,cCUPPED,cHINGED,dLOW,aHAND-CIRCLE INDEX HINGE,aHAND-FIST INDEX MIDDLE,
     aHAND-CIRCLE INDEX MIDDLE,aHAND-FIST INDEX MIDDLE BENT,dRAISED KNUCKLES,dHINGED,
     cUP MIDDLE HINGED,cHINGED MIDDLE UP,cMIDDLE CONJOINED,eINDEX BENT,eMIDDLE BENT,eCUPPED,eHINGED,
     dCROSSED,aHAND-CIRCLE INDEX MIDDLE CROSSED,aHAND-FIST MIDDLE BENT OVER INDEX,
     bINDEX BENT OVER MIDDLE,cMIDDLE THUMB,aHAND-CIRCLE INDEX MIDDLE THUMB,
     aHAND-FIST INDEX MIDDLE STRAIGHT THUMB BENT,dBENT THUMB STRAIGHT,dTHUMB BENT,
     dHINGED SPREAD THUMB SIDE,cUP MIDDLE HINGED THUMB SIDE,gCONJOINED,cHINGED MIDDLE UP THUMB SIDE,
     cMIDDLE UP SPREAD THUMB FORWARD,dTHUMB CUPPED,eCIRCLED,eHOOKED,eHINGED,
     bTHUMB BETWEEN INDEX MIDDLE STRAIGHT,bINDEX MIDDLE CONJOINED THUMB SIDE,gCONJOINED,gBENT,
     bMIDDLE THUMB HOOKED INDEX UP,bINDEX THUMB HOOKED MIDDLE UP,
     cMIDDLE CONJOINED HINGED THUMB SIDE,dCROSSED THUMB SIDE,dCONJOINED THUMB FORWARD,
     eCUPPED THUMB FORWARD,bMIDDLE THUMB CUPPED INDEX UP,bINDEX THUMB CUPPED MIDDLE UP,
     bMIDDLE THUMB CIRCLED INDEX UP,fHINGED,bINDEX THUMB ANGLED OUT MIDDLE UP,eIN MIDDLE UP,
     dCIRCLED MIDDLE UP,cMIDDLE THUMB CONJOINED HINGED,eANGLED OUT,eANGLED,
     bMIDDLE THUMB ANGLED OUT INDEX UP,gCROSSED,eINDEX UP,bINDEX THUMB HOOKED MIDDLE HINGED,
     aHAND-FLAT FOUR FINGERS,dBENT,dHINGED,dCONJOINED,eSPLIT,aHAND-CLAW FOUR FINGERS CONJOINED,
     aHAND-FIST FOUR FINGERS CONJOINED BENT,aHAND-HINGE FOUR FINGERS CONJOINED,
     aHAND-FLAT FIVE FINGERS SPREAD,bHEEL FIVE FINGERS SPREAD,bFIVE FINGERS SPREAD FOUR BENT,
     bHEEL FIVE FINGERS SPREAD FOUR BENT,bFIVE FINGERS SPREAD BENT,bHEEL FIVE FINGERS SPREAD BENT,
     bFIVE FINGERS SPREAD THUMB FORWARD,aHAND-CUP FIVE FINGERS SPREAD,eOPEN,
     aHAND-HINGE FIVE FINGERS SPREAD OPEN,aHAND-OVAL FIVE FINGERS SPREAD,
     aHAND-FLAT FIVE FINGERS SPREAD HINGED,fTHUMB SIDE,fNO THUMB,aHAND-FLAT,bBETWEEN PALM FACINGS,
     bHEEL,bTHUMB SIDE,bHEEL THUMB SIDE,bTHUMB BENT,cFORWARD,bSPLIT INDEX THUMB SIDE,cCENTRE,
     dTHUMB SIDE,fBENT,cLITTLE,aHAND-CLAW,bTHUMB SIDE,bNO THUMB,bTHUMB FORWARD,aHAND-HOOK CURLICUE,
     aHAND-HOOK,aHAND-CUP OPEN,aHAND-CUP,bOPEN THUMB SIDE,bTHUMB SIDE,bOPEN NO THUMB,bNO THUMB,
     bOPEN THUMB FORWARD,bTHUMB FORWARD,aHAND-CURLICUE OPEN,aHAND-CURLICUE,aHAND-CIRCLE,aHAND-OVAL,
     bTHUMB SIDE,bNO THUMB,bTHUMB FORWARD,aHAND-HINGE OPEN,cTHUMB FORWARD,aHAND-HINGE,bSMALL,
     bOPEN THUMB SIDE,bTHUMB SIDE,bOPEN NO THUMB,bNO THUMB,bTHUMB SIDE TOUCHING INDEX,
     cBETWEEN MIDDLE RING,aHAND-ANGLE,aHAND-FIST INDEX MIDDLE RING,aHAND-CIRCLE INDEX MIDDLE RING,
     aHAND-HINGE INDEX MIDDLE RING,aHAND-ANGLE INDEX MIDDLE RING,aHAND-HINGE LITTLE,
     aHAND-FIST INDEX MIDDLE RING BENT,eCONJOINED,aHAND-HINGE INDEX MIDDLE RING CONJOINED,
     aHAND-FIST LITTLE DOWN,dRIPPLE STRAIGHT,eCURVED,dOTHERS CIRCLED,cUP,bTHUMB UNDER LITTLE UP,
     aHAND-CIRCLE LITTLE UP,aHAND-OVAL LITTLE UP,aHAND-ANGLE LITTLE UP,
     aHAND-FIST LITTLE RAISED KNUCKLE,cBENT,cTOUCHES THUMB,cTHUMB,aHAND-HINGE LITTLE THUMB,
     aHAND-FIST LITTLE INDEX THUMB,aHAND-HINGE LITTLE INDEX THUMB,
     aHAND-ANGLE LITTLE INDEX THUMB INDEX THUMB OUT,fTHUMB,aHAND-FIST LITTLE INDEX,
     aHAND-CIRCLE LITTLE INDEX,aHAND-HINGE LITTLE INDEX,aHAND-ANGLE LITTLE INDEX,
     aHAND-FIST INDEX MIDDLE LITTLE,aHAND-CIRCLE INDEX MIDDLE LITTLE,
     aHAND-HINGE INDEX MIDDLE LITTLE,bRING,aHAND-ANGLE INDEX MIDDLE LITTLE,
     aHAND-FIST INDEX MIDDLE CROSS LITTLE,aHAND-CIRCLE INDEX MIDDLE CROSS LITTLE,
     aHAND-FIST RING DOWN,aHAND-HINGE RING DOWN INDEX THUMB HOOK MIDDLE,
     aHAND-ANGLE RING DOWN MIDDLE THUMB INDEX CROSS,aHAND-FIST RING UP,cRAISED KNUCKLE,cLITTLE,
     aHAND-CIRCLE RING LITTLE,aHAND-OVAL RING LITTLE,aHAND-ANGLE RING LITTLE,aHAND-FIST RING MIDDLE,
     dCONJOINED,dRAISED KNUCKLES,cINDEX,cTHUMB,aHAND-HOOK RING THUMB,aHAND-FIST INDEX RING LITTLE,
     aHAND-CIRCLE INDEX RING LITTLE,aHAND-CURLICUE INDEX RING LITTLE ON,
     aHAND-HOOK INDEX RING LITTLE OUT,eIN,eUNDER,aHAND-CUP INDEX RING LITTLE,
     aHAND-HINGE INDEX RING LITTLE,aHAND-ANGLE INDEX RING LITTLE OUT,dLITTLE,aHAND-FIST MIDDLE DOWN,
     aHAND-HINGE MIDDLE,aHAND-FIST MIDDLE UP,aHAND-CIRCLE MIDDLE UP,
     aHAND-FIST MIDDLE RAISED KNUCKLE,cUP THUMB SIDE,aHAND-HOOK MIDDLE THUMB,
     aHAND-FIST MIDDLE THUMB LITTLE,cLITTLE,cRING LITTLE,aHAND-CIRCLE MIDDLE RING LITTLE,
     aHAND-CURLICUE MIDDLE RING LITTLE ON,aHAND-CUP MIDDLE RING LITTLE,
     aHAND-HINGE MIDDLE RING LITTLE,aHAND-ANGLE MIDDLE RING LITTLE OUT,eIN,dLITTLE,
     aHAND-CIRCLE MIDDLE RING LITTLE BENT,aHAND-CLAW MIDDLE RING LITTLE CONJOINED,fSIDE,
     aHAND-HOOK MIDDLE RING LITTLE CONJOINED OUT,fIN,eCONJOINED,aHAND-HINGE INDEX HINGED,
     aHAND-FIST INDEX THUMB SIDE,aHAND-HINGE INDEX THUMB SIDE,
     aHAND-FIST INDEX THUMB SIDE THUMB DIAGONAL,fCONJOINED,fBENT,eINDEX BENT,eBOTH BENT,
     eINDEX HINGE,dFORWARD INDEX STRAIGHT,fBENT,dHOOK,dCURLICUE,dCURVE THUMB INSIDE,
     aHAND-CLAW INDEX THUMB CURVE THUMB INSIDE,aHAND-FIST INDEX THUMB CURVE THUMB UNDER,dCIRCLE,
     aHAND-CUP INDEX THUMB,dOPEN,aHAND-HINGE INDEX THUMB OPEN,dLARGE,cTHUMB,dSMALL,
     aHAND-ANGLE INDEX THUMB OUT,dIN,cTHUMB,aHAND-FIST THUMB,cHEEL,cSIDE DIAGONAL,dCONJOINED,dBENT,
     cFORWARD,cBETWEEN INDEX MIDDLE,dMIDDLE RING,dRING LITTLE,cUNDER TWO FINGERS,cOVER TWO FINGERS,
     cUNDER THREE FINGERS,dFOUR FINGERS,cOVER FOUR RAISED KNUCKLES,aHAND-FIST,bHEEL,aTOUCH SINGLE,
     bMULTIPLE,bBETWEEN,aGRASP SINGLE,bMULTIPLE,bBETWEEN,aSTRIKE SINGLE,bMULTIPLE,bBETWEEN,
     aBRUSH SINGLE,bMULTIPLE,bBETWEEN,aRUB SINGLE,bMULTIPLE,bBETWEEN,aSURFACE SYMBOLS,bBETWEEN,
     aSQUEEZE LARGE SINGLE,bSMALL SINGLE,bLARGE MULTIPLE,bSMALL MULTIPLE,bSEQUENTIAL,
     aFLICK LARGE SINGLE,bSMALL SINGLE,bLARGE MULTIPLE,bSMALL MULTIPLE,bSEQUENTIAL,
     aSQUEEZE FLICK ALTERNATING,aMOVEMENT-HINGE UP DOWN LARGE,dSMALL,cSEQUENTIAL,bDOWN SEQUENTIAL,
     bUP DOWN ALTERNATING LARGE,eSMALL,bSIDE TO SIDE SCISSORS,aMOVEMENT-WALLPLANE FINGER CONTACT,
     aMOVEMENT-FLOORPLANE FINGER CONTACT,aMOVEMENT-WALLPLANE SINGLE STRAIGHT SMALL,dMEDIUM,dLARGE,
     dLARGEST,cWRIST FLEX,bDOUBLE STRAIGHT,cWRIST FLEX,cALTERNATING,dWRIST FLEX,bCROSS,
     bTRIPLE STRAIGHT MOVEMENT,cWRIST FLEX,cALTERNATING,dWRIST FLEX,bBEND SMALL,cMEDIUM,cLARGE,
     bCORNER SMALL,cMEDIUM,cLARGE,cROTATION,bCHECK SMALL,cMEDIUM,cLARGE,bBOX SMALL,cMEDIUM,cLARGE,
     bZIGZAG SMALL,cMEDIUM,cLARGE,bPEAKS SMALL,cMEDIUM,cLARGE,
     aTRAVEL-WALLPLANE ROTATION-WALLPLANE SINGLE,cDOUBLE,cALTERNATING,bROTATION-FLOORPLANE SINGLE,
     cDOUBLE,cALTERNATING,bSHAKING,bARM SPIRAL SINGLE,dDOUBLE,dTRIPLE,aMOVEMENT-DIAGONAL AWAY SMALL,
     cMEDIUM,cLARGE,cLARGEST,bTOWARDS SMALL,cMEDIUM,cLARGE,cLARGEST,bBETWEEN AWAY SMALL,dMEDIUM,
     dLARGE,dLARGEST,cTOWARDS SMALL,dMEDIUM,dLARGE,dLARGEST,
     aMOVEMENT-FLOORPLANE SINGLE STRAIGHT SMALL,dMEDIUM,dLARGE,dLARGEST,cWRIST FLEX,
     bDOUBLE STRAIGHT,cWRIST FLEX,cALTERNATING,dWRIST FLEX,bCROSS,bTRIPLE STRAIGHT MOVEMENT,
     cWRIST FLEX,cALTERNATING MOVEMENT,dWRIST FLEX,bBEND,bCORNER SMALL,cMEDIUM,cLARGE,bCHECK,
     bBOX SMALL,cMEDIUM,cLARGE,bZIGZAG SMALL,cMEDIUM,cLARGE,bPEAKS SMALL,cMEDIUM,cLARGE,
     aTRAVEL-FLOORPLANE ROTATION-FLOORPLANE SINGLE,cDOUBLE,cALTERNATING,bROTATION-WALLPLANE SINGLE,
     cDOUBLE,cALTERNATING,bSHAKING,aMOVEMENT-WALLPLANE CURVE QUARTER SMALL,dMEDIUM,dLARGE,dLARGEST,
     cHALF-CIRCLE SMALL,dMEDIUM,dLARGE,dLARGEST,cTHREE-QUARTER CIRCLE SMALL,eMEDIUM,bHUMP SMALL,
     cMEDIUM,cLARGE,bLOOP SMALL,cMEDIUM,cLARGE,cSMALL DOUBLE,bWAVE CURVE DOUBLE SMALL,eMEDIUM,
     eLARGE,dTRIPLE SMALL,eMEDIUM,eLARGE,bCURVE THEN STRAIGHT,bCURVED CROSS SMALL,dMEDIUM,
     aROTATION-WALLPLANE SINGLE,bDOUBLE,bALTERNATE,aMOVEMENT-WALLPLANE SHAKING,
     bCURVE HITTING FRONT WALL,bHUMP HITTING FRONT WALL,bLOOP HITTING FRONT WALL,
     bWAVE HITTING FRONT WALL,aROTATION-WALLPLANE SINGLE HITTING FRONT WALL,
     bDOUBLE HITTING FRONT WALL,bALTERNATING HITTING FRONT WALL,
     aMOVEMENT-WALLPLANE CURVE HITTING CHEST,bHUMP HITTING CHEST,bLOOP HITTING CHEST,
     bWAVE HITTING CHEST,aROTATION-WALLPLANE SINGLE HITTING CHEST,bDOUBLE HITTING CHEST,
     bALTERNATING HITTING CHEST,aMOVEMENT-WALLPLANE WAVE DIAGONAL PATH SMALL,eMEDIUM,eLARGE,
     aMOVEMENT-FLOORPLANE CURVE HITTING CEILING SMALL,eLARGE,bHUMP HITTING CEILING SMALL DOUBLE,
     eLARGE DOUBLE,eSMALL TRIPLE,eLARGE TRIPLE,bLOOP HITTING CEILING SMALL SINGLE,eLARGE SINGLE,
     eSMALL DOUBLE,eLARGE DOUBLE,bWAVE HITTING CEILING SMALL,eLARGE,
     aROTATION-FLOORPLANE SINGLE HITTING CEILING,bDOUBLE HITTING CEILING,
     bALTERNATING HITTING CEILING,aMOVEMENT-FLOORPLANE CURVE HITTING FLOOR SMALL,eLARGE,
     bHUMP HITTING FLOOR SMALL DOUBLE,eLARGE DOUBLE,eTRIPLE SMALL TRIPLE,fLARGE TRIPLE,
     bLOOP HITTING FLOOR SMALL SINGLE,eLARGE SINGLE,eSMALL DOUBLE,eLARGE DOUBLE,
     bWAVE HITTING FLOOR SMALL,eLARGE,aROTATION-FLOORPLANE SINGLE HITTING FLOOR,
     bDOUBLE HITTING FLOOR,bALTERNATING HITTING FLOOR,aMOVEMENT-FLOORPLANE CURVE SMALL,cMEDIUM,
     cLARGE,cLARGEST,cCOMBINED,bHUMP SMALL,bLOOP SMALL,bWAVE SNAKE,cSMALL,cLARGE,
     aROTATION-FLOORPLANE SINGLE,bDOUBLE,bALTERNATING,aMOVEMENT-FLOORPLANE SHAKING PARALLEL,
     aMOVEMENT-WALLPLANE ARM CIRCLE SMALL SINGLE,dMEDIUM SINGLE,dSMALL DOUBLE,dMEDIUM DOUBLE,
     aMOVEMENT-FLOORPLANE ARM CIRCLE HITTING WALL SMALL SINGLE,fMEDIUM SINGLE,fLARGE SINGLE,
     fSMALL DOUBLE,fMEDIUM DOUBLE,fLARGE DOUBLE,aMOVEMENT-WALLPLANE WRIST CIRCLE FRONT SINGLE,
     eDOUBLE,aMOVEMENT-FLOORPLANE WRIST CIRCLE HITTING WALL SINGLE,fDOUBLE,
     aMOVEMENT-WALLPLANE FINGER CIRCLES SINGLE,dDOUBLE,
     aMOVEMENT-FLOORPLANE FINGER CIRCLES HITTING WALL SINGLE,fDOUBLE,aDYNAMIC ARROWHEAD SMALL,
     cLARGE,bFAST,bSLOW,bTENSE,bRELAXED,bSIMULTANEOUS,cALTERNATING,bEVERY OTHER TIME,bGRADUAL,aHEAD,
     bRIM,bMOVEMENT-WALLPLANE STRAIGHT,cTILT,bMOVEMENT-FLOORPLANE STRAIGHT,
     bMOVEMENT-WALLPLANE CURVE,bMOVEMENT-FLOORPLANE CURVE,bMOVEMENT CIRCLE,
     aFACE DIRECTION POSITION NOSE FORWARD TILTING,eUP OR DOWN,hTILTING,aEYEBROWS STRAIGHT UP,
     cNEUTRAL,cDOWN,aDREAMY EYEBROWS NEUTRAL DOWN,cDOWN NEUTRAL,cUP NEUTRAL,cNEUTRAL UP,
     aFOREHEAD NEUTRAL,bCONTACT,bWRINKLED,aEYES OPEN,bSQUEEZED,bCLOSED,aEYE BLINK SINGLE,cMULTIPLE,
     aEYES HALF OPEN,bWIDE OPEN,bHALF CLOSED,bWIDENING MOVEMENT,aEYE WINK,aEYELASHES UP,bDOWN,
     bFLUTTERING,aEYEGAZE-WALLPLANE STRAIGHT,cDOUBLE,cALTERNATING,aEYEGAZE-FLOORPLANE STRAIGHT,
     cDOUBLE,cALTERNATING,aEYEGAZE-WALLPLANE CURVED,aEYEGAZE-FLOORPLANE CURVED,
     aEYEGAZE-WALLPLANE CIRCLING,aCHEEKS PUFFED,bNEUTRAL,bSUCKED,aTENSE CHEEKS HIGH,cMIDDLE,cLOW,
     aEARS,aNOSE NEUTRAL,bCONTACT,bWRINKLES,bWIGGLES,aAIR BLOWING OUT,bSUCKING IN,
     bBLOW SMALL ROTATIONS,bSUCK SMALL ROTATIONS,aBREATH INHALE,bEXHALE,aMOUTH CLOSED NEUTRAL,
     cFORWARD,cCONTACT,bSMILE,cWRINKLED,cOPEN,bFROWN,cWRINKLED,cOPEN,bOPEN CIRCLE,cFORWARD,
     cWRINKLED,cOVAL,dWRINKLED,dYAWN,cRECTANGLE,dWRINKLED,dYAWN,bKISS,cFORWARD,cWRINKLED,bTENSE,
     cFORWARD,cSUCKED,aLIPS PRESSED TOGETHER,aLIP LOWER OVER UPPER,bUPPER OVER LOWER,aMOUTH CORNERS,
     bWRINKLES SINGLE,cDOUBLE,aTONGUE STICKING OUT FAR,bLICKING LIPS,bTIP BETWEEN LIPS,
     cTOUCHING INSIDE MOUTH,bINSIDE MOUTH RELAXED,bMOVES AGAINST CHEEK,bCENTRE STICKING OUT,
     cINSIDE MOUTH,aTEETH,bMOVEMENT,bON TONGUE,dMOVEMENT,cLIPS,dMOVEMENT,bBITE LIPS,
     aMOVEMENT-WALLPLANE JAW,aMOVEMENT-FLOORPLANE JAW,aNECK,aHAIR,aEXCITEMENT,aSHOULDER HIP SPINE,
     cPOSITIONS,aWALLPLANE SHOULDER HIP MOVE,aFLOORPLANE SHOULDER HIP MOVE,
     aSHOULDER TILTING FROM WAIST,aTORSO-WALLPLANE STRAIGHT STRETCH,bCURVED BEND,
     aTORSO-FLOORPLANE TWISTING,aUPPER BODY TILTING FROM HIP JOINTS,aLIMB COMBINATION,bLENGTH-1,
     bLENGTH-2,bLENGTH-3,bLENGTH-4,bLENGTH-5,bLENGTH-6,bLENGTH-7,aFINGER,aLOCATION-WALLPLANE SPACE,
     aLOCATION-FLOORPLANE SPACE,aLOCATION HEIGHT,bWIDTH,bDEPTH,bHEAD NECK,bTORSO,bLIMBS DIGITS,
     aCOMMA,aFULL STOP,aSEMICOLON,aCOLON,aPARENTHESIS"),
   (0x1da9b, "SIGNWRITING FILL MODIFIER-2,bMODIFIER-3,bMODIFIER-4,bMODIFIER-5,bMODIFIER-6,,
     aROTATION MODIFIER-2,bMODIFIER-3,bMODIFIER-4,bMODIFIER-5,bMODIFIER-6,bMODIFIER-7,bMODIFIER-8,
     bMODIFIER-9,bMODIFIER-10,bMODIFIER-11,bMODIFIER-12,bMODIFIER-13,bMODIFIER-14,bMODIFIER-15,
     bMODIFIER-16"),
   (0x1df00, "LATIN SMALL LETTER FENG DIGRAPH WITH TRILL,cREVERSED SCRIPT G,
     aLETTER SMALL CAPITAL TURNED G,aSMALL LETTER REVERSED K,aLETTER SMALL CAPITAL L WITH BELT,
     aSMALL LETTER LEZH WITH RETROFLEX HOOK,cTURNED Y WITH BELT,cREVERSED ENG,
     cTURNED R WITH LONG LEG AND RETROFLEX HOOK,cT WITH HOOK AND RETROFLEX HOOK,
     aLETTER RETROFLEX CLICK WITH RETROFLEX HOOK,aSMALL LETTER ESH WITH DOUBLE BAR,gAND CURL,
     cTURNED T WITH CURL,aLETTER INVERTED GLOTTAL STOP WITH CURL,bSTRETCHED C WITH CURL,
     bSMALL CAPITAL TURNED K,aSMALL LETTER L WITH FISHHOOK,cDEZH DIGRAPH WITH PALATAL HOOK,
     cL WITH BELT AND PALATAL HOOK,cENG WITH PALATAL HOOK,cTURNED R WITH PALATAL HOOK,
     cR WITH FISHHOOK AND PALATAL HOOK,cTESH DIGRAPH WITH PALATAL HOOK,cEZH WITH PALATAL HOOK,
     cDEZH DIGRAPH WITH RETROFLEX HOOK,cI WITH STROKE AND RETROFLEX HOOK,cO WITH RETROFLEX HOOK,
     cTESH DIGRAPH WITH RETROFLEX HOOK,cC WITH RETROFLEX HOOK,cS WITH CURL"),
   (0x1e000, "COMBINING GLAGOLITIC LETTER AZU,cBUKY,cVEDE,cGLAGOLI,cDOBRO,cYESTU,cZHIVETE,,cZEMLJA,
     cIZHE,cINITIAL IZHE,cI,cDJERVI,cKAKO,cLJUDIJE,cMYSLITE,cNASHI,cONU,cPOKOJI,cRITSI,cSLOVO,
     cTVRIDO,cUKU,cFRITU,cHERU,,,cSHTA,cTSI,cCHRIVI,cSHA,cYERU,cYERI,cYATI,,cYU,cSMALL YUS,,cYO,
     cIOTATED SMALL YUS,cBIG YUS,cIOTATED BIG YUS,cFITA"),
   (0x1e100, "NYIAKENG PUACHUE HMONG LETTER MA,dTSA,dNTA,dTA,dHA,dNA,dXA,dNKA,dCA,dLA,dSA,dZA,dNCA,
     dNTSA,dKA,dDA,dNYA,dNRA,dVA,dNTXA,dTXA,dFA,dRA,dQA,dYA,dNQA,dPA,dXYA,dNPA,dDLA,dNPLA,dHAH,dMLA,
     dPLA,dGA,dRRA,dA,dAA,dI,dU,dO,dOO,dE,dEE,dW,,,,cTONE-B,cTONE-M,cTONE-J,cTONE-V,cTONE-S,cTONE-G,
     cTONE-D,cSIGN FOR PERSON,eTHING,eLOCATION,eANIMAL,eINVERTEBRATE,dXW XW,cSYLLABLE LENGTHENER,,,
     cDIGIT ZERO,dONE,dTWO,dTHREE,dFOUR,dFIVE,dSIX,dSEVEN,dEIGHT,dNINE,,,,,cLOGOGRAM NYAJ,
     cCIRCLED CA"),
   (0x1e290, "TOTO LETTER PA,bBA,bTA,bDA,bKA,bGA,bMA,bNA,bNGA,bSA,bCHA,bYA,bWA,bJA,bHA,bRA,bLA,bI,
     bBREATHY I,bIU,bBREATHY IU,bU,bE,bBREATHY E,bEO,bBREATHY EO,bO,bAE,bBREATHY AE,bA,
     aSIGN RISING TONE"),
   (0x1e2c0, "WANCHO LETTER AA,bA,bBA,bCA,bDA,bGA,bYA,bPHA,bLA,bNA,bPA,bTA,bTHA,bFA,bSA,bSHA,bJA,
     bZA,bWA,bVA,bKA,bO,bAU,bRA,bMA,bKHA,bHA,bE,bI,bNGA,bU,bLLHA,bTSA,bTRA,bONG,bAANG,bANG,bING,bON,
     bEN,bAAN,bNYA,bUEN,bYIH,aTONE TUP,bTUPNI,bKOI,bKOINI,aDIGIT ZERO,bONE,bTWO,bTHREE,bFOUR,bFIVE,
     bSIX,bSEVEN,bEIGHT,bNINE,,,,,,aNGUN SIGN"),
   (0x1e7e0, "ETHIOPIC SYLLABLE HHYA,bHHYU,bHHYI,bHHYAA,bHHYEE,bHHYE,bHHYO,,bGURAGE HHWA,bHHWI,
     bHHWEE,bHHWE,,bGURAGE MWI,cMWEE,,cQWI,cQWEE,cQWE,cBWI,cBWEE,cKWI,cKWEE,cKWE,cGWI,cGWEE,cGWE,
     cFWI,cFWEE,cPWI,cPWEE,,MENDE KIKAKUI SYLLABLE M001 KI,cM002 KA,cM003 KU,cM065 KEE,cM095 KE,
     cM076 KOO,cM048 KO,cM179 KUA,cM004 WI,cM005 WA,cM006 WU,cM126 WEE,cM118 WE,cM114 WOO,cM045 WO,
     cM194 WUI,cM143 WEI,cM061 WVI,cM049 WVA,cM139 WVE,cM007 MIN,cM008 MAN,cM009 MUN,cM059 MEN,
     cM094 MON,cM154 MUAN,cM189 MUEN,cM010 BI,cM011 BA,cM012 BU,cM150 BEE,cM097 BE,cM103 BOO,
     cM138 BO,cM013 I,cM014 A,cM015 U,cM163 EE,cM100 E,cM165 OO,cM147 O,cM137 EI,cM131 IN,cM135 IN,
     cM195 AN,cM178 EN,cM019 SI,cM020 SA,cM021 SU,cM162 SEE,cM116 SE,cM136 SOO,cM079 SO,cM196 SIA,
     cM025 LI,cM026 LA,cM027 LU,cM084 LEE,cM073 LE,cM054 LOO,cM153 LO,cM110 LONG LE,cM016 DI,
     cM017 DA,cM018 DU,cM089 DEE,cM180 DOO,cM181 DO,cM022 TI,cM023 TA,cM024 TU,cM091 TEE,cM055 TE,
     cM104 TOO,cM069 TO,cM028 JI,cM029 JA,cM030 JU,cM157 JEE,cM113 JE,cM160 JOO,cM063 JO,
     cM175 LONG JO,cM031 YI,cM032 YA,cM033 YU,cM109 YEE,cM080 YE,cM141 YOO,cM121 YO,cM034 FI,
     cM035 FA,cM036 FU,cM078 FEE,cM075 FE,cM133 FOO,cM088 FO,cM197 FUA,cM101 FAN,cM037 NIN,
     cM038 NAN,cM039 NUN,cM117 NEN,cM169 NON,cM176 HI,cM041 HA,cM186 HU,cM040 HEE,cM096 HE,
     cM042 HOO,cM140 HO,cM083 HEEI,cM128 HOOU,cM053 HIN,cM130 HAN,cM087 HUN,cM052 HEN,cM193 HON,
     cM046 HUAN,cM090 NGGI,cM043 NGGA,cM082 NGGU,cM115 NGGEE,cM146 NGGE,cM156 NGGOO,cM120 NGGO,
     cM159 NGGAA,cM127 NGGUA,cM086 LONG NGGE,cM106 LONG NGGOO,cM183 LONG NGGO,cM155 GI,cM111 GA,
     cM168 GU,cM190 GEE,cM166 GUEI,cM167 GUAN,cM184 NGEN,cM057 NGON,cM177 NGUAN,cM068 PI,cM099 PA,
     cM050 PU,cM081 PEE,cM051 PE,cM102 POO,cM066 PO,cM145 MBI,cM062 MBA,cM122 MBU,cM047 MBEE,
     cM188 MBEE,cM072 MBE,cM172 MBOO,cM174 MBO,cM187 MBUU,cM161 LONG MBE,cM105 LONG MBOO,
     cM142 LONG MBO,cM132 KPI,cM092 KPA,cM074 KPU,cM044 KPEE,cM108 KPE,cM112 KPOO,cM158 KPO,
     cM124 GBI,cM056 GBA,cM148 GBU,cM093 GBEE,cM107 GBE,cM071 GBOO,cM070 GBO,cM171 RA,cM123 NDI,
     cM129 NDA,cM125 NDU,cM191 NDEE,cM119 NDE,cM067 NDOO,cM064 NDO,cM152 NJA,cM192 NJU,cM149 NJEE,
     cM134 NJOO,cM182 VI,cM185 VA,cM151 VU,cM173 VEE,cM085 VE,cM144 VOO,cM077 VO,cM164 NYIN,
     cM058 NYAN,cM170 NYUN,cM098 NYEN,cM060 NYON,,,bDIGIT ONE,cTWO,cTHREE,cFOUR,cFIVE,cSIX,cSEVEN,
     cEIGHT,cNINE,bCOMBINING NUMBER TEENS,dTENS,dHUNDREDS,dTHOUSANDS,dTEN THOUSANDS,
     dHUNDRED THOUSANDS,dMILLIONS"),
   (0x1e900, "ADLAM CAPITAL LETTER ALIF,cDAALI,cLAAM,cMIIM,cBA,cSINNYIIYHE,cPE,cBHE,cRA,cE,cFA,cI,
     cO,cDHA,cYHE,cWAW,cNUN,cKAF,cYA,cU,cJIIM,cCHI,cHA,cQAAF,cGA,cNYA,cTU,cNHA,cVA,cKHA,cGBE,cZAL,
     cKPO,cSHA,aSMALL LETTER ALIF,cDAALI,cLAAM,cMIIM,cBA,cSINNYIIYHE,cPE,cBHE,cRA,cE,cFA,cI,cO,cDHA,
     cYHE,cWAW,cNUN,cKAF,cYA,cU,cJIIM,cCHI,cHA,cQAAF,cGA,cNYA,cTU,cNHA,cVA,cKHA,cGBE,cZAL,cKPO,cSHA,
     aALIF LENGTHENER,aVOWEL LENGTHENER,aGEMINATION MARK,aHAMZA,aCONSONANT MODIFIER,
     aGEMINATE CONSONANT MODIFIER,aNUKTA,aNASALIZATION MARK,,,,,aDIGIT ZERO,bONE,bTWO,bTHREE,bFOUR,
     bFIVE,bSIX,bSEVEN,bEIGHT,bNINE,,,,,aINITIAL EXCLAMATION MARK,bQUESTION MARK"),
   (0x1ec71, "INDIC SIYAQ NUMBER ONE,cTWO,cTHREE,cFOUR,cFIVE,cSIX,cSEVEN,cEIGHT,cNINE,cTEN,cTWENTY,
     cTHIRTY,cFORTY,cFIFTY,cSIXTY,cSEVENTY,cEIGHTY,cNINETY,cONE HUNDRED,cTWO HUNDRED,cTHREE HUNDRED,
     cFOUR HUNDRED,cFIVE HUNDRED,cSIX HUNDRED,cSEVEN HUNDRED,cEIGHT HUNDRED,cNINE HUNDRED,
     cONE THOUSAND,cTWO THOUSAND,cTHREE THOUSAND,cFOUR THOUSAND,cFIVE THOUSAND,cSIX THOUSAND,
     cSEVEN THOUSAND,cEIGHT THOUSAND,cNINE THOUSAND,cTEN THOUSAND,cTWENTY THOUSAND,cTHIRTY THOUSAND,
     cFORTY THOUSAND,cFIFTY THOUSAND,cSIXTY THOUSAND,cSEVENTY THOUSAND,cEIGHTY THOUSAND,
     cNINETY THOUSAND,cLAKH,cLAKHAN,bLAKH MARK,bNUMBER KAROR,cKARORAN,cPREFIXED ONE,dTWO,dTHREE,
     dFOUR,dFIVE,dSIX,dSEVEN,dEIGHT,dNINE,bPLACEHOLDER,bFRACTION ONE QUARTER,dHALF,cTHREE QUARTERS,
     bRUPEE MARK,bNUMBER ALTERNATE ONE,dTWO,dTEN THOUSAND,bALTERNATE LAKH MARK"),
   (0x1ed01, "OTTOMAN SIYAQ NUMBER ONE,cTWO,cTHREE,cFOUR,cFIVE,cSIX,cSEVEN,cEIGHT,cNINE,cTEN,
     cTWENTY,cTHIRTY,cFORTY,cFIFTY,cSIXTY,cSEVENTY,cEIGHTY,cNINETY,cONE HUNDRED,cTWO HUNDRED,
     cTHREE HUNDRED,cFOUR HUNDRED,cFIVE HUNDRED,cSIX HUNDRED,cSEVEN HUNDRED,cEIGHT HUNDRED,
     cNINE HUNDRED,cONE THOUSAND,cTWO THOUSAND,cTHREE THOUSAND,cFOUR THOUSAND,cFIVE THOUSAND,
     cSIX THOUSAND,cSEVEN THOUSAND,cEIGHT THOUSAND,cNINE THOUSAND,cTEN THOUSAND,cTWENTY THOUSAND,
     cTHIRTY THOUSAND,cFORTY THOUSAND,cFIFTY THOUSAND,cSIXTY THOUSAND,cSEVENTY THOUSAND,
     cEIGHTY THOUSAND,cNINETY THOUSAND,bMARRATAN,bALTERNATE NUMBER TWO,dTHREE,dFOUR,dFIVE,dSIX,
     dSEVEN,dEIGHT,dNINE,dTEN,dFOUR HUNDRED,dSIX HUNDRED,dTWO THOUSAND,dTEN THOUSAND,
     bFRACTION ONE HALF,dSIXTH"),
   (0x1ee00, "ARABIC MATHEMATICAL ALEF,bBEH,bJEEM,bDAL,,bWAW,bZAIN,bHAH,bTAH,bYEH,bKAF,bLAM,bMEEM,
     bNOON,bSEEN,bAIN,bFEH,bSAD,bQAF,bREH,bSHEEN,bTEH,bTHEH,bKHAH,bTHAL,bDAD,bZAH,bGHAIN,
     bDOTLESS BEH,cNOON,cFEH,cQAF,,bINITIAL BEH,cJEEM,,cHEH,,,cHAH,,cYEH,cKAF,cLAM,cMEEM,cNOON,
     cSEEN,cAIN,cFEH,cSAD,cQAF,,cSHEEN,cTEH,cTHEH,cKHAH,,cDAD,,cGHAIN,,,,,,,bTAILED JEEM,,,,,cHAH,,
     cYEH,,cLAM,,cNOON,cSEEN,cAIN,,cSAD,cQAF,,cSHEEN,,,cKHAH,,cDAD,,cGHAIN,,cDOTLESS NOON,,dQAF,,
     bSTRETCHED BEH,cJEEM,,cHEH,,,cHAH,cTAH,cYEH,cKAF,,cMEEM,cNOON,cSEEN,cAIN,cFEH,cSAD,cQAF,,
     cSHEEN,cTEH,cTHEH,cKHAH,,cDAD,cZAH,cGHAIN,cDOTLESS BEH,,dFEH,,bLOOPED ALEF,cBEH,cJEEM,cDAL,
     cHEH,cWAW,cZAIN,cHAH,cTAH,cYEH,,cLAM,cMEEM,cNOON,cSEEN,cAIN,cFEH,cSAD,cQAF,cREH,cSHEEN,cTEH,
     cTHEH,cKHAH,cTHAL,cDAD,cZAH,cGHAIN,,,,,,bDOUBLE-STRUCK BEH,cJEEM,cDAL,,cWAW,cZAIN,cHAH,cTAH,
     cYEH,,cLAM,cMEEM,cNOON,cSEEN,cAIN,cFEH,cSAD,cQAF,cREH,cSHEEN,cTEH,cTHEH,cKHAH,cTHAL,cDAD,cZAH,
     cGHAIN"),
   (0x1eef0, "ARABIC MATHEMATICAL OPERATOR MEEM WITH HAH WITH TATWEEL,cHAH WITH DAL"),
   (0x1f000, "MAHJONG TILE EAST WIND,bSOUTH WIND,bWEST WIND,bNORTH WIND,bRED DRAGON,bGREEN DRAGON,
     bWHITE DRAGON,bONE OF CHARACTERS,bTWO OF CHARACTERS,bTHREE OF CHARACTERS,bFOUR OF CHARACTERS,
     bFIVE OF CHARACTERS,bSIX OF CHARACTERS,bSEVEN OF CHARACTERS,bEIGHT OF CHARACTERS,
     bNINE OF CHARACTERS,bONE OF BAMBOOS,bTWO OF BAMBOOS,bTHREE OF BAMBOOS,bFOUR OF BAMBOOS,
     bFIVE OF BAMBOOS,bSIX OF BAMBOOS,bSEVEN OF BAMBOOS,bEIGHT OF BAMBOOS,bNINE OF BAMBOOS,
     bONE OF CIRCLES,bTWO OF CIRCLES,bTHREE OF CIRCLES,bFOUR OF CIRCLES,bFIVE OF CIRCLES,
     bSIX OF CIRCLES,bSEVEN OF CIRCLES,bEIGHT OF CIRCLES,bNINE OF CIRCLES,bPLUM,bORCHID,bBAMBOO,
     bCHRYSANTHEMUM,bSPRING,bSUMMER,bAUTUMN,bWINTER,bJOKER,bBACK,,,,,DOMINO TILE HORIZONTAL BACK,
     bHORIZONTAL-00-00,bHORIZONTAL-00-01,bHORIZONTAL-00-02,bHORIZONTAL-00-03,bHORIZONTAL-00-04,
     bHORIZONTAL-00-05,bHORIZONTAL-00-06,bHORIZONTAL-01-00,bHORIZONTAL-01-01,bHORIZONTAL-01-02,
     bHORIZONTAL-01-03,bHORIZONTAL-01-04,bHORIZONTAL-01-05,bHORIZONTAL-01-06,bHORIZONTAL-02-00,
     bHORIZONTAL-02-01,bHORIZONTAL-02-02,bHORIZONTAL-02-03,bHORIZONTAL-02-04,bHORIZONTAL-02-05,
     bHORIZONTAL-02-06,bHORIZONTAL-03-00,bHORIZONTAL-03-01,bHORIZONTAL-03-02,bHORIZONTAL-03-03,
     bHORIZONTAL-03-04,bHORIZONTAL-03-05,bHORIZONTAL-03-06,bHORIZONTAL-04-00,bHORIZONTAL-04-01,
     bHORIZONTAL-04-02,bHORIZONTAL-04-03,bHORIZONTAL-04-04,bHORIZONTAL-04-05,bHORIZONTAL-04-06,
     bHORIZONTAL-05-00,bHORIZONTAL-05-01,bHORIZONTAL-05-02,bHORIZONTAL-05-03,bHORIZONTAL-05-04,
     bHORIZONTAL-05-05,bHORIZONTAL-05-06,bHORIZONTAL-06-00,bHORIZONTAL-06-01,bHORIZONTAL-06-02,
     bHORIZONTAL-06-03,bHORIZONTAL-06-04,bHORIZONTAL-06-05,bHORIZONTAL-06-06,bVERTICAL BACK,
     bVERTICAL-00-00,bVERTICAL-00-01,bVERTICAL-00-02,bVERTICAL-00-03,bVERTICAL-00-04,
     bVERTICAL-00-05,bVERTICAL-00-06,bVERTICAL-01-00,bVERTICAL-01-01,bVERTICAL-01-02,
     bVERTICAL-01-03,bVERTICAL-01-04,bVERTICAL-01-05,bVERTICAL-01-06,bVERTICAL-02-00,
     bVERTICAL-02-01,bVERTICAL-02-02,bVERTICAL-02-03,bVERTICAL-02-04,bVERTICAL-02-05,
     bVERTICAL-02-06,bVERTICAL-03-00,bVERTICAL-03-01,bVERTICAL-03-02,bVERTICAL-03-03,
     bVERTICAL-03-04,bVERTICAL-03-05,bVERTICAL-03-06,bVERTICAL-04-00,bVERTICAL-04-01,
     bVERTICAL-04-02,bVERTICAL-04-03,bVERTICAL-04-04,bVERTICAL-04-05,bVERTICAL-04-06,
     bVERTICAL-05-00,bVERTICAL-05-01,bVERTICAL-05-02,bVERTICAL-05-03,bVERTICAL-05-04,
     bVERTICAL-05-05,bVERTICAL-05-06,bVERTICAL-06-00,bVERTICAL-06-01,bVERTICAL-06-02,
     bVERTICAL-06-03,bVERTICAL-06-04,bVERTICAL-06-05,bVERTICAL-06-06"),
   (0x1f0a0, "PLAYING CARD BACK,bACE OF SPADES,bTWO OF SPADES,bTHREE OF SPADES,bFOUR OF SPADES,
     bFIVE OF SPADES,bSIX OF SPADES,bSEVEN OF SPADES,bEIGHT OF SPADES,bNINE OF SPADES,
     bTEN OF SPADES,bJACK OF SPADES,bKNIGHT OF SPADES,bQUEEN OF SPADES,bKING OF SPADES,,,
     bACE OF HEARTS,bTWO OF HEARTS,bTHREE OF HEARTS,bFOUR OF HEARTS,bFIVE OF HEARTS,bSIX OF HEARTS,
     bSEVEN OF HEARTS,bEIGHT OF HEARTS,bNINE OF HEARTS,bTEN OF HEARTS,bJACK OF HEARTS,
     bKNIGHT OF HEARTS,bQUEEN OF HEARTS,bKING OF HEARTS,bRED JOKER,,bACE OF DIAMONDS,
     bTWO OF DIAMONDS,bTHREE OF DIAMONDS,bFOUR OF DIAMONDS,bFIVE OF DIAMONDS,bSIX OF DIAMONDS,
     bSEVEN OF DIAMONDS,bEIGHT OF DIAMONDS,bNINE OF DIAMONDS,bTEN OF DIAMONDS,bJACK OF DIAMONDS,
     bKNIGHT OF DIAMONDS,bQUEEN OF DIAMONDS,bKING OF DIAMONDS,bBLACK JOKER,,bACE OF CLUBS,
     bTWO OF CLUBS,bTHREE OF CLUBS,bFOUR OF CLUBS,bFIVE OF CLUBS,bSIX OF CLUBS,bSEVEN OF CLUBS,
     bEIGHT OF CLUBS,bNINE OF CLUBS,bTEN OF CLUBS,bJACK OF CLUBS,bKNIGHT OF CLUBS,bQUEEN OF CLUBS,
     bKING OF CLUBS,bWHITE JOKER,bFOOL,bTRUMP-1,bTRUMP-2,bTRUMP-3,bTRUMP-4,bTRUMP-5,bTRUMP-6,
     bTRUMP-7,bTRUMP-8,bTRUMP-9,bTRUMP-10,bTRUMP-11,bTRUMP-12,bTRUMP-13,bTRUMP-14,bTRUMP-15,
     bTRUMP-16,bTRUMP-17,bTRUMP-18,bTRUMP-19,bTRUMP-20,bTRUMP-21"),
   (0x1f100, "DIGIT ZERO FULL STOP,bCOMMA,aONE COMMA,aTWO COMMA,aTHREE COMMA,aFOUR COMMA,
     aFIVE COMMA,aSIX COMMA,aSEVEN COMMA,aEIGHT COMMA,aNINE COMMA,
     DINGBAT CIRCLED SANS-SERIF DIGIT ZERO,aNEGATIVE CIRCLED SANS-SERIF DIGIT ZERO,
     CIRCLED ZERO WITH SLASH,aANTICLOCKWISE ARROW,aDOLLAR SIGN WITH OVERLAID BACKSLASH,
     PARENTHESIZED LATIN CAPITAL LETTER A,dB,dC,dD,dE,dF,dG,dH,dI,dJ,dK,dL,dM,dN,dO,dP,dQ,dR,dS,dT,
     dU,dV,dW,dX,dY,dZ,TORTOISE SHELL BRACKETED LATIN CAPITAL LETTER S,
     CIRCLED ITALIC LATIN CAPITAL LETTER C,eR,aCD,aWZ,COPYLEFT SYMBOL,
     SQUARED LATIN CAPITAL LETTER A,dB,dC,dD,dE,dF,dG,dH,dI,dJ,dK,dL,dM,dN,dO,dP,dQ,dR,dS,dT,dU,dV,
     dW,dX,dY,dZ,aHV,aMV,aSD,aSS,aPPV,aWC,NEGATIVE CIRCLED LATIN CAPITAL LETTER A,eB,eC,eD,eE,eF,eG,
     eH,eI,eJ,eK,eL,eM,eN,eO,eP,eQ,eR,eS,eT,eU,eV,eW,eX,eY,eZ,RAISED MC SIGN,aMD SIGN,aMR SIGN,
     CIRCLED CC,aC WITH OVERLAID BACKSLASH,aHUMAN FIGURE,NEGATIVE SQUARED LATIN CAPITAL LETTER A,eB,
     eC,eD,eE,eF,eG,eH,eI,eJ,eK,eL,eM,eN,eO,eP,eQ,eR,eS,eT,eU,eV,eW,eX,eY,eZ,
     CROSSED NEGATIVE SQUARED LATIN CAPITAL LETTER P,NEGATIVE SQUARED IC,bPA,bSA,bAB,bWC,SQUARE DJ,
     SQUARED CL,aCOOL,aFREE,aID,aNEW,aNG,aOK,aSOS,aUP WITH EXCLAMATION MARK,aVS,aTHREE D,
     aSECOND SCREEN,aTWO K,aFOUR K,aEIGHT K,aFIVE POINT ONE,aSEVEN POINT ONE,aTWENTY-TWO POINT TWO,
     aSIXTY P,aONE HUNDRED TWENTY P,aLATIN SMALL LETTER D,aHC,aHDR,aHI-RES,aLOSSLESS,aSHV,aUHD,aVOD,
     MASK WORK SYMBOL"),
   (0x1f1e6, "REGIONAL INDICATOR SYMBOL LETTER A,dB,dC,dD,dE,dF,dG,dH,dI,dJ,dK,dL,dM,dN,dO,dP,dQ,dR,
     dS,dT,dU,dV,dW,dX,dY,dZ,SQUARE HIRAGANA HOKA,SQUARED KATAKANA KOKO,bSA"),
   (0x1f210, "SQUARED CJK UNIFIED IDEOGRAPH-624B,cIDEOGRAPH-5B57,cIDEOGRAPH-53CC,aKATAKANA DE,
     aCJK UNIFIED IDEOGRAPH-4E8C,cIDEOGRAPH-591A,cIDEOGRAPH-89E3,cIDEOGRAPH-5929,cIDEOGRAPH-4EA4,
     cIDEOGRAPH-6620,cIDEOGRAPH-7121,cIDEOGRAPH-6599,cIDEOGRAPH-524D,cIDEOGRAPH-5F8C,
     cIDEOGRAPH-518D,cIDEOGRAPH-65B0,cIDEOGRAPH-521D,cIDEOGRAPH-7D42,cIDEOGRAPH-751F,
     cIDEOGRAPH-8CA9,cIDEOGRAPH-58F0,cIDEOGRAPH-5439,cIDEOGRAPH-6F14,cIDEOGRAPH-6295,
     cIDEOGRAPH-6355,cIDEOGRAPH-4E00,cIDEOGRAPH-4E09,cIDEOGRAPH-904A,cIDEOGRAPH-5DE6,
     cIDEOGRAPH-4E2D,cIDEOGRAPH-53F3,cIDEOGRAPH-6307,cIDEOGRAPH-8D70,cIDEOGRAPH-6253,
     cIDEOGRAPH-7981,cIDEOGRAPH-7A7A,cIDEOGRAPH-5408,cIDEOGRAPH-6E80,cIDEOGRAPH-6709,
     cIDEOGRAPH-6708,cIDEOGRAPH-7533,cIDEOGRAPH-5272,cIDEOGRAPH-55B6,cIDEOGRAPH-914D,,,,,
     TORTOISE SHELL BRACKETED CJK UNIFIED IDEOGRAPH-672C,eIDEOGRAPH-4E09,eIDEOGRAPH-4E8C,
     eIDEOGRAPH-5B89,eIDEOGRAPH-70B9,eIDEOGRAPH-6253,eIDEOGRAPH-76D7,eIDEOGRAPH-52DD,
     eIDEOGRAPH-6557,,,,,,,,CIRCLED IDEOGRAPH ADVANTAGE,bACCEPT"),
   (0x1f260, "ROUNDED SYMBOL FOR FU,cLU,cSHOU,cXI,cSHUANGXI,cCAI"),
   (0x1f300, "CYCLONE,FOGGY,CLOSED UMBRELLA,NIGHT WITH STARS,SUNRISE OVER MOUNTAINS,SUNRISE,
     CITYSCAPE AT DUSK,SUNSET OVER BUILDINGS,RAINBOW,BRIDGE AT NIGHT,WATER WAVE,VOLCANO,MILKY WAY,
     EARTH GLOBE EUROPE-AFRICA,bAMERICAS,bASIA-AUSTRALIA,GLOBE WITH MERIDIANS,NEW MOON SYMBOL,
     WAXING CRESCENT MOON SYMBOL,FIRST QUARTER MOON SYMBOL,WAXING GIBBOUS MOON SYMBOL,
     FULL MOON SYMBOL,WANING GIBBOUS MOON SYMBOL,LAST QUARTER MOON SYMBOL,
     WANING CRESCENT MOON SYMBOL,CRESCENT MOON,NEW MOON WITH FACE,FIRST QUARTER MOON WITH FACE,
     LAST QUARTER MOON WITH FACE,FULL MOON WITH FACE,SUN WITH FACE,GLOWING STAR,SHOOTING STAR,
     THERMOMETER,BLACK DROPLET,WHITE SUN,bWITH SMALL CLOUD,bBEHIND CLOUD,dWITH RAIN,CLOUD WITH RAIN,
     bSNOW,bLIGHTNING,bTORNADO,FOG,WIND BLOWING FACE,HOT DOG,TACO,BURRITO,CHESTNUT,SEEDLING,
     EVERGREEN TREE,DECIDUOUS TREE,PALM TREE,CACTUS,HOT PEPPER,TULIP,CHERRY BLOSSOM,ROSE,HIBISCUS,
     SUNFLOWER,BLOSSOM,EAR OF MAIZE,bRICE,HERB,FOUR LEAF CLOVER,MAPLE LEAF,FALLEN LEAF,
     LEAF FLUTTERING IN WIND,MUSHROOM,TOMATO,AUBERGINE,GRAPES,MELON,WATERMELON,TANGERINE,LEMON,
     BANANA,PINEAPPLE,RED APPLE,GREEN APPLE,PEAR,PEACH,CHERRIES,STRAWBERRY,HAMBURGER,SLICE OF PIZZA,
     MEAT ON BONE,POULTRY LEG,RICE CRACKER,aBALL,COOKED RICE,CURRY AND RICE,STEAMING BOWL,SPAGHETTI,
     BREAD,FRENCH FRIES,ROASTED SWEET POTATO,DANGO,ODEN,SUSHI,FRIED SHRIMP,
     FISH CAKE WITH SWIRL DESIGN,SOFT ICE CREAM,SHAVED ICE,ICE CREAM,DOUGHNUT,COOKIE,CHOCOLATE BAR,
     CANDY,LOLLIPOP,CUSTARD,HONEY POT,SHORTCAKE,BENTO BOX,POT OF FOOD,COOKING,FORK AND KNIFE,
     TEACUP WITHOUT HANDLE,SAKE BOTTLE AND CUP,WINE GLASS,COCKTAIL GLASS,TROPICAL DRINK,BEER MUG,
     CLINKING BEER MUGS,BABY BOTTLE,FORK AND KNIFE WITH PLATE,BOTTLE WITH POPPING CORK,POPCORN,
     RIBBON,WRAPPED PRESENT,BIRTHDAY CAKE,JACK-O-LANTERN,CHRISTMAS TREE,FATHER CHRISTMAS,FIREWORKS,
     FIREWORK SPARKLER,BALLOON,PARTY POPPER,CONFETTI BALL,TANABATA TREE,CROSSED FLAGS,
     PINE DECORATION,JAPANESE DOLLS,CARP STREAMER,WIND CHIME,MOON VIEWING CEREMONY,SCHOOL SATCHEL,
     GRADUATION CAP,HEART WITH TIP ON THE LEFT,BOUQUET OF FLOWERS,MILITARY MEDAL,REMINDER RIBBON,
     MUSICAL KEYBOARD WITH JACKS,STUDIO MICROPHONE,LEVEL SLIDER,CONTROL KNOBS,
     BEAMED ASCENDING MUSICAL NOTES,aDESCENDING MUSICAL NOTES,FILM FRAMES,ADMISSION TICKETS,
     CAROUSEL HORSE,FERRIS WHEEL,ROLLER COASTER,FISHING POLE AND FISH,MICROPHONE,MOVIE CAMERA,
     CINEMA,HEADPHONE,ARTIST PALETTE,TOP HAT,CIRCUS TENT,TICKET,CLAPPER BOARD,PERFORMING ARTS,
     VIDEO GAME,DIRECT HIT,SLOT MACHINE,BILLIARDS,GAME DIE,BOWLING,FLOWER PLAYING CARDS,
     MUSICAL NOTE,MULTIPLE MUSICAL NOTES,SAXOPHONE,GUITAR,MUSICAL KEYBOARD,TRUMPET,VIOLIN,
     MUSICAL SCORE,RUNNING SHIRT WITH SASH,TENNIS RACQUET AND BALL,SKI AND SKI BOOT,
     BASKETBALL AND HOOP,CHEQUERED FLAG,SNOWBOARDER,RUNNER,SURFER,SPORTS MEDAL,TROPHY,HORSE RACING,
     AMERICAN FOOTBALL,RUGBY FOOTBALL,SWIMMER,WEIGHT LIFTER,GOLFER,RACING MOTORCYCLE,aCAR,
     CRICKET BAT AND BALL,VOLLEYBALL,FIELD HOCKEY STICK AND BALL,ICE HOCKEY STICK AND PUCK,
     TABLE TENNIS PADDLE AND BALL,SNOW CAPPED MOUNTAIN,CAMPING,BEACH WITH UMBRELLA,
     BUILDING CONSTRUCTION,HOUSE BUILDINGS,CITYSCAPE,DERELICT HOUSE BUILDING,CLASSICAL BUILDING,
     DESERT,aISLAND,NATIONAL PARK,STADIUM,HOUSE BUILDING,aWITH GARDEN,OFFICE BUILDING,
     JAPANESE POST OFFICE,EUROPEAN POST OFFICE,HOSPITAL,BANK,AUTOMATED TELLER MACHINE,HOTEL,
     LOVE HOTEL,CONVENIENCE STORE,SCHOOL,DEPARTMENT STORE,FACTORY,IZAKAYA LANTERN,JAPANESE CASTLE,
     EUROPEAN CASTLE,WHITE PENNANT,BLACK PENNANT,WAVING WHITE FLAG,aBLACK FLAG,ROSETTE,
     BLACK ROSETTE,LABEL,BADMINTON RACQUET AND SHUTTLECOCK,BOW AND ARROW,AMPHORA,
     EMOJI MODIFIER FITZPATRICK TYPE-1-2,cTYPE-3,cTYPE-4,cTYPE-5,cTYPE-6,RAT,MOUSE,OX,WATER BUFFALO,
     COW,TIGER,LEOPARD,RABBIT,CAT,DRAGON,CROCODILE,WHALE,SNAIL,SNAKE,HORSE,RAM,GOAT,SHEEP,MONKEY,
     ROOSTER,CHICKEN,DOG,PIG,BOAR,ELEPHANT,OCTOPUS,SPIRAL SHELL,BUG,ANT,HONEYBEE,LADY BEETLE,FISH,
     TROPICAL FISH,BLOWFISH,TURTLE,HATCHING CHICK,BABY CHICK,FRONT-FACING BABY CHICK,BIRD,PENGUIN,
     KOALA,POODLE,DROMEDARY CAMEL,BACTRIAN CAMEL,DOLPHIN,MOUSE FACE,COW FACE,TIGER FACE,RABBIT FACE,
     CAT FACE,DRAGON FACE,SPOUTING WHALE,HORSE FACE,MONKEY FACE,DOG FACE,PIG FACE,FROG FACE,
     HAMSTER FACE,WOLF FACE,BEAR FACE,PANDA FACE,PIG NOSE,PAW PRINTS,CHIPMUNK,EYES,EYE,EAR,NOSE,
     MOUTH,TONGUE,WHITE UP POINTING BACKHAND INDEX,aDOWN POINTING BACKHAND INDEX,
     aLEFT POINTING BACKHAND INDEX,aRIGHT POINTING BACKHAND INDEX,FISTED HAND SIGN,WAVING HAND SIGN,
     OK HAND SIGN,THUMBS UP SIGN,aDOWN SIGN,CLAPPING HANDS SIGN,OPEN HANDS SIGN,CROWN,WOMANS HAT,
     EYEGLASSES,NECKTIE,T-SHIRT,JEANS,DRESS,KIMONO,BIKINI,WOMANS CLOTHES,PURSE,HANDBAG,POUCH,
     MANS SHOE,ATHLETIC SHOE,HIGH-HEELED SHOE,WOMANS SANDAL,aBOOTS,FOOTPRINTS,BUST IN SILHOUETTE,
     BUSTS IN SILHOUETTE,BOY,GIRL,MAN,WOMAN,FAMILY,MAN AND WOMAN HOLDING HANDS,
     TWO MEN HOLDING HANDS,aWOMEN HOLDING HANDS,POLICE OFFICER,WOMAN WITH BUNNY EARS,
     BRIDE WITH VEIL,PERSON WITH BLOND HAIR,MAN WITH GUA PI MAO,bTURBAN,OLDER MAN,aWOMAN,BABY,
     CONSTRUCTION WORKER,PRINCESS,JAPANESE OGRE,aGOBLIN,GHOST,BABY ANGEL,EXTRATERRESTRIAL ALIEN,
     ALIEN MONSTER,IMP,SKULL,INFORMATION DESK PERSON,GUARDSMAN,DANCER,LIPSTICK,NAIL POLISH,
     FACE MASSAGE,HAIRCUT,BARBER POLE,SYRINGE,PILL,KISS MARK,LOVE LETTER,RING,GEM STONE,KISS,
     BOUQUET,COUPLE WITH HEART,WEDDING,BEATING HEART,BROKEN HEART,TWO HEARTS,SPARKLING HEART,
     GROWING HEART,HEART WITH ARROW,BLUE HEART,GREEN HEART,YELLOW HEART,PURPLE HEART,
     HEART WITH RIBBON,REVOLVING HEARTS,HEART DECORATION,DIAMOND SHAPE WITH A DOT INSIDE,
     ELECTRIC LIGHT BULB,ANGER SYMBOL,BOMB,SLEEPING SYMBOL,COLLISION SYMBOL,SPLASHING SWEAT SYMBOL,
     DROPLET,DASH SYMBOL,PILE OF POO,FLEXED BICEPS,DIZZY SYMBOL,SPEECH BALLOON,THOUGHT BALLOON,
     WHITE FLOWER,HUNDRED POINTS SYMBOL,MONEY BAG,CURRENCY EXCHANGE,HEAVY DOLLAR SIGN,CREDIT CARD,
     BANKNOTE WITH YEN SIGN,bDOLLAR SIGN,bEURO SIGN,bPOUND SIGN,MONEY WITH WINGS,
     CHART WITH UPWARDS TREND AND YEN SIGN,SEAT,PERSONAL COMPUTER,BRIEFCASE,MINIDISC,FLOPPY DISK,
     OPTICAL DISC,DVD,FILE FOLDER,OPEN FILE FOLDER,PAGE WITH CURL,aFACING UP,CALENDAR,
     TEAR-OFF CALENDAR,CARD INDEX,CHART WITH UPWARDS TREND,bDOWNWARDS TREND,BAR CHART,CLIPBOARD,
     PUSHPIN,ROUND PUSHPIN,PAPERCLIP,STRAIGHT RULER,TRIANGULAR RULER,BOOKMARK TABS,LEDGER,NOTEBOOK,
     aWITH DECORATIVE COVER,CLOSED BOOK,OPEN BOOK,GREEN BOOK,BLUE BOOK,ORANGE BOOK,BOOKS,NAME BADGE,
     SCROLL,MEMO,TELEPHONE RECEIVER,PAGER,FAX MACHINE,SATELLITE ANTENNA,PUBLIC ADDRESS LOUDSPEAKER,
     CHEERING MEGAPHONE,OUTBOX TRAY,INBOX TRAY,PACKAGE,E-MAIL SYMBOL,INCOMING ENVELOPE,
     ENVELOPE WITH DOWNWARDS ARROW ABOVE,CLOSED MAILBOX WITH LOWERED FLAG,cRAISED FLAG,
     OPEN MAILBOX WITH RAISED FLAG,cLOWERED FLAG,POSTBOX,POSTAL HORN,NEWSPAPER,MOBILE PHONE,
     bWITH RIGHTWARDS ARROW AT LEFT,VIBRATION MODE,MOBILE PHONE OFF,NO MOBILE PHONES,
     ANTENNA WITH BARS,CAMERA,aWITH FLASH,VIDEO CAMERA,TELEVISION,RADIO,VIDEOCASSETTE,
     FILM PROJECTOR,PORTABLE STEREO,PRAYER BEADS,TWISTED RIGHTWARDS ARROWS,
     CLOCKWISE RIGHTWARDS AND LEFTWARDS OPEN CIRCLE ARROWS,gWITH CIRCLED ONE OVERLAY,
     aDOWNWARDS AND UPWARDS OPEN CIRCLE ARROWS,
     ANTICLOCKWISE DOWNWARDS AND UPWARDS OPEN CIRCLE ARROWS,LOW BRIGHTNESS SYMBOL,
     HIGH BRIGHTNESS SYMBOL,SPEAKER WITH CANCELLATION STROKE,SPEAKER,aWITH ONE SOUND WAVE,
     bTHREE SOUND WAVES,BATTERY,ELECTRIC PLUG,LEFT-POINTING MAGNIFYING GLASS,
     RIGHT-POINTING MAGNIFYING GLASS,LOCK WITH INK PEN,CLOSED LOCK WITH KEY,KEY,LOCK,OPEN LOCK,BELL,
     aWITH CANCELLATION STROKE,BOOKMARK,LINK SYMBOL,RADIO BUTTON,BACK WITH LEFTWARDS ARROW ABOVE,
     END WITH LEFTWARDS ARROW ABOVE,ON WITH EXCLAMATION MARK WITH LEFT RIGHT ARROW ABOVE,
     SOON WITH RIGHTWARDS ARROW ABOVE,TOP WITH UPWARDS ARROW ABOVE,NO ONE UNDER EIGHTEEN SYMBOL,
     KEYCAP TEN,INPUT SYMBOL FOR LATIN CAPITAL LETTERS,dSMALL LETTERS,cNUMBERS,cSYMBOLS,
     cLATIN LETTERS,FIRE,ELECTRIC TORCH,WRENCH,HAMMER,NUT AND BOLT,HOCHO,PISTOL,MICROSCOPE,
     TELESCOPE,CRYSTAL BALL,SIX POINTED STAR WITH MIDDLE DOT,JAPANESE SYMBOL FOR BEGINNER,
     TRIDENT EMBLEM,BLACK SQUARE BUTTON,WHITE SQUARE BUTTON,LARGE RED CIRCLE,aBLUE CIRCLE,
     aORANGE DIAMOND,aBLUE DIAMOND,SMALL ORANGE DIAMOND,aBLUE DIAMOND,UP-POINTING RED TRIANGLE,
     DOWN-POINTING RED TRIANGLE,UP-POINTING SMALL RED TRIANGLE,DOWN-POINTING SMALL RED TRIANGLE,
     LOWER RIGHT SHADOWED WHITE CIRCLE,UPPER RIGHT SHADOWED WHITE CIRCLE,CIRCLED CROSS POMMEE,
     CROSS POMMEE WITH HALF-CIRCLE BELOW,aPOMMEE,NOTCHED LEFT SEMICIRCLE WITH THREE DOTS,
     aRIGHT SEMICIRCLE WITH THREE DOTS,SYMBOL FOR MARKS CHAPTER,WHITE LATIN CROSS,HEAVY LATIN CROSS,
     CELTIC CROSS,OM SYMBOL,DOVE OF PEACE,KAABA,MOSQUE,SYNAGOGUE,MENORAH WITH NINE BRANCHES,
     BOWL OF HYGIEIA,CLOCK FACE ONE OCLOCK,bTWO OCLOCK,bTHREE OCLOCK,bFOUR OCLOCK,bFIVE OCLOCK,
     bSIX OCLOCK,bSEVEN OCLOCK,bEIGHT OCLOCK,bNINE OCLOCK,bTEN OCLOCK,bELEVEN OCLOCK,bTWELVE OCLOCK,
     bONE-THIRTY,bTWO-THIRTY,bTHREE-THIRTY,bFOUR-THIRTY,bFIVE-THIRTY,bSIX-THIRTY,bSEVEN-THIRTY,
     bEIGHT-THIRTY,bNINE-THIRTY,bTEN-THIRTY,bELEVEN-THIRTY,bTWELVE-THIRTY,RIGHT SPEAKER,
     bWITH ONE SOUND WAVE,cTHREE SOUND WAVES,BULLHORN,aWITH SOUND WAVES,RINGING BELL,BOOK,CANDLE,
     MANTELPIECE CLOCK,BLACK SKULL AND CROSSBONES,NO PIRACY,HOLE,MAN IN BUSINESS SUIT LEVITATING,
     SLEUTH OR SPY,DARK SUNGLASSES,SPIDER,aWEB,JOYSTICK,MAN DANCING,LEFT HAND TELEPHONE RECEIVER,
     TELEPHONE RECEIVER WITH PAGE,RIGHT HAND TELEPHONE RECEIVER,WHITE TOUCHTONE TELEPHONE,
     BLACK TOUCHTONE TELEPHONE,TELEPHONE ON TOP OF MODEM,CLAMSHELL MOBILE PHONE,BACK OF ENVELOPE,
     STAMPED ENVELOPE,ENVELOPE WITH LIGHTNING,FLYING ENVELOPE,PEN OVER STAMPED ENVELOPE,
     LINKED PAPERCLIPS,BLACK PUSHPIN,LOWER LEFT PENCIL,bBALLPOINT PEN,bFOUNTAIN PEN,bPAINTBRUSH,
     bCRAYON,LEFT WRITING HAND,TURNED OK HAND SIGN,RAISED HAND WITH FINGERS SPLAYED,
     REVERSED RAISED HAND WITH FINGERS SPLAYED,aTHUMBS UP SIGN,bDOWN SIGN,aVICTORY HAND,
     aHAND WITH MIDDLE FINGER EXTENDED,RAISED HAND WITH PART BETWEEN MIDDLE AND RING FINGERS,
     WHITE DOWN POINTING LEFT HAND INDEX,SIDEWAYS WHITE LEFT POINTING INDEX,bRIGHT POINTING INDEX,
     aBLACK LEFT POINTING INDEX,bRIGHT POINTING INDEX,BLACK LEFT POINTING BACKHAND INDEX,
     aRIGHT POINTING BACKHAND INDEX,SIDEWAYS WHITE UP POINTING INDEX,bDOWN POINTING INDEX,
     aBLACK UP POINTING INDEX,bDOWN POINTING INDEX,BLACK UP POINTING BACKHAND INDEX,
     aDOWN POINTING BACKHAND INDEX,aHEART,DESKTOP COMPUTER,KEYBOARD AND MOUSE,
     THREE NETWORKED COMPUTERS,PRINTER,POCKET CALCULATOR,BLACK HARD SHELL FLOPPY DISK,
     WHITE HARD SHELL FLOPPY DISK,SOFT SHELL FLOPPY DISK,TAPE CARTRIDGE,WIRED KEYBOARD,
     ONE BUTTON MOUSE,TWO BUTTON MOUSE,THREE BUTTON MOUSE,TRACKBALL,OLD PERSONAL COMPUTER,HARD DISK,
     SCREEN,PRINTER ICON,FAX ICON,OPTICAL DISC ICON,DOCUMENT WITH TEXT,cAND PICTURE,bPICTURE,
     FRAME WITH PICTURE,bTILES,bAN X,BLACK FOLDER,FOLDER,OPEN FOLDER,CARD INDEX DIVIDERS,aFILE BOX,
     FILE CABINET,EMPTY NOTE,bPAGE,bPAD,NOTE,aPAGE,aPAD,EMPTY DOCUMENT,aPAGE,aPAGES,DOCUMENT,PAGE,
     PAGES,WASTEBASKET,SPIRAL NOTE PAD,aCALENDAR PAD,DESKTOP WINDOW,MINIMIZE,MAXIMIZE,OVERLAP,
     CLOCKWISE RIGHT AND LEFT SEMICIRCLE ARROWS,CANCELLATION X,INCREASE FONT SIZE SYMBOL,
     DECREASE FONT SIZE SYMBOL,COMPRESSION,OLD KEY,ROLLED-UP NEWSPAPER,PAGE WITH CIRCLED TEXT,
     STOCK CHART,DAGGER KNIFE,LIPS,SPEAKING HEAD IN SILHOUETTE,THREE RAYS ABOVE,bBELOW,bLEFT,bRIGHT,
     LEFT SPEECH BUBBLE,RIGHT SPEECH BUBBLE,TWO SPEECH BUBBLES,THREE SPEECH BUBBLES,
     LEFT THOUGHT BUBBLE,RIGHT THOUGHT BUBBLE,LEFT ANGER BUBBLE,RIGHT ANGER BUBBLE,MOOD BUBBLE,
     LIGHTNING MOOD BUBBLE,aMOOD,BALLOT BOX WITH BALLOT,aSCRIPT X,aBOX WITH SCRIPT X,aBOLD SCRIPT X,
     aBOX WITH BOLD SCRIPT X,LIGHT CHECK MARK,BALLOT BOX WITH BOLD CHECK,WORLD MAP,MOUNT FUJI,
     TOKYO TOWER,STATUE OF LIBERTY,SILHOUETTE OF JAPAN,MOYAI,GRINNING FACE,bWITH SMILING EYES,
     FACE WITH TEARS OF JOY,SMILING FACE WITH OPEN MOUTH,eAND SMILING EYES,fCOLD SWEAT,
     fTIGHTLY-CLOSED EYES,cHALO,cHORNS,WINKING FACE,SMILING FACE WITH SMILING EYES,
     FACE SAVOURING DELICIOUS FOOD,RELIEVED FACE,SMILING FACE WITH HEART-SHAPED EYES,cSUNGLASSES,
     SMIRKING FACE,NEUTRAL FACE,EXPRESSIONLESS FACE,UNAMUSED FACE,FACE WITH COLD SWEAT,PENSIVE FACE,
     CONFUSED FACE,CONFOUNDED FACE,KISSING FACE,FACE THROWING A KISS,KISSING FACE WITH SMILING EYES,
     cCLOSED EYES,FACE WITH STUCK-OUT TONGUE,dAND WINKING EYE,eTIGHTLY-CLOSED EYES,
     DISAPPOINTED FACE,WORRIED FACE,ANGRY FACE,POUTING FACE,CRYING FACE,PERSEVERING FACE,
     FACE WITH LOOK OF TRIUMPH,DISAPPOINTED BUT RELIEVED FACE,FROWNING FACE WITH OPEN MOUTH,
     ANGUISHED FACE,FEARFUL FACE,WEARY FACE,SLEEPY FACE,TIRED FACE,GRIMACING FACE,
     LOUDLY CRYING FACE,FACE WITH OPEN MOUTH,HUSHED FACE,FACE WITH OPEN MOUTH AND COLD SWEAT,
     aSCREAMING IN FEAR,ASTONISHED FACE,FLUSHED FACE,SLEEPING FACE,DIZZY FACE,FACE WITHOUT MOUTH,
     aWITH MEDICAL MASK,GRINNING CAT FACE WITH SMILING EYES,CAT FACE WITH TEARS OF JOY,
     SMILING CAT FACE WITH OPEN MOUTH,dHEART-SHAPED EYES,CAT FACE WITH WRY SMILE,
     KISSING CAT FACE WITH CLOSED EYES,POUTING CAT FACE,CRYING CAT FACE,WEARY CAT FACE,
     SLIGHTLY FROWNING FACE,aSMILING FACE,UPSIDE-DOWN FACE,FACE WITH ROLLING EYES,bNO GOOD GESTURE,
     bOK GESTURE,PERSON BOWING DEEPLY,SEE-NO-EVIL MONKEY,HEAR-NO-EVIL MONKEY,SPEAK-NO-EVIL MONKEY,
     HAPPY PERSON RAISING ONE HAND,PERSON RAISING BOTH HANDS IN CELEBRATION,aFROWNING,
     aWITH POUTING FACE,bFOLDED HANDS,NORTH WEST POINTING LEAF,SOUTH WEST POINTING LEAF,
     NORTH EAST POINTING LEAF,SOUTH EAST POINTING LEAF,TURNED NORTH WEST POINTING LEAF,
     aSOUTH WEST POINTING LEAF,aNORTH EAST POINTING LEAF,aSOUTH EAST POINTING LEAF,
     NORTH WEST POINTING VINE LEAF,SOUTH WEST POINTING VINE LEAF,NORTH EAST POINTING VINE LEAF,
     SOUTH EAST POINTING VINE LEAF,HEAVY NORTH WEST POINTING VINE LEAF,
     aSOUTH WEST POINTING VINE LEAF,aNORTH EAST POINTING VINE LEAF,aSOUTH EAST POINTING VINE LEAF,
     NORTH WEST POINTING BUD,SOUTH WEST POINTING BUD,NORTH EAST POINTING BUD,
     SOUTH EAST POINTING BUD,HEAVY NORTH WEST POINTING BUD,aSOUTH WEST POINTING BUD,
     aNORTH EAST POINTING BUD,aSOUTH EAST POINTING BUD,HOLLOW QUILT SQUARE ORNAMENT,
     dIN BLACK SQUARE,SOLID QUILT SQUARE ORNAMENT,dIN BLACK SQUARE,LEFTWARDS ROCKET,UPWARDS ROCKET,
     RIGHTWARDS ROCKET,DOWNWARDS ROCKET,SCRIPT LIGATURE ET ORNAMENT,
     HEAVY SCRIPT LIGATURE ET ORNAMENT,LIGATURE OPEN ET ORNAMENT,HEAVY LIGATURE OPEN ET ORNAMENT,
     aAMPERSAND ORNAMENT,SWASH AMPERSAND ORNAMENT,
     SANS-SERIF HEAVY DOUBLE TURNED COMMA QUOTATION MARK ORNAMENT,cCOMMA QUOTATION MARK ORNAMENT,
     bLOW DOUBLE COMMA QUOTATION MARK ORNAMENT,HEAVY INTERROBANG ORNAMENT,
     SANS-SERIF INTERROBANG ORNAMENT,HEAVY SANS-SERIF INTERROBANG ORNAMENT,VERY HEAVY SOLIDUS,
     bREVERSE SOLIDUS,CHECKER BOARD,REVERSE CHECKER BOARD,ROCKET,HELICOPTER,STEAM LOCOMOTIVE,
     RAILWAY CAR,HIGH-SPEED TRAIN,bWITH BULLET NOSE,TRAIN,METRO,LIGHT RAIL,STATION,TRAM,aCAR,BUS,
     ONCOMING BUS,TROLLEYBUS,BUS STOP,MINIBUS,AMBULANCE,FIRE ENGINE,POLICE CAR,ONCOMING POLICE CAR,
     TAXI,ONCOMING TAXI,AUTOMOBILE,ONCOMING AUTOMOBILE,RECREATIONAL VEHICLE,DELIVERY TRUCK,
     ARTICULATED LORRY,TRACTOR,MONORAIL,MOUNTAIN RAILWAY,SUSPENSION RAILWAY,MOUNTAIN CABLEWAY,
     AERIAL TRAMWAY,SHIP,ROWBOAT,SPEEDBOAT,HORIZONTAL TRAFFIC LIGHT,VERTICAL TRAFFIC LIGHT,
     CONSTRUCTION SIGN,POLICE CARS REVOLVING LIGHT,TRIANGULAR FLAG ON POST,DOOR,NO ENTRY SIGN,
     SMOKING SYMBOL,NO SMOKING SYMBOL,PUT LITTER IN ITS PLACE SYMBOL,DO NOT LITTER SYMBOL,
     POTABLE WATER SYMBOL,NON-POTABLE WATER SYMBOL,BICYCLE,NO BICYCLES,BICYCLIST,MOUNTAIN BICYCLIST,
     PEDESTRIAN,NO PEDESTRIANS,CHILDREN CROSSING,MENS SYMBOL,WOMENS SYMBOL,RESTROOM,BABY SYMBOL,
     TOILET,WATER CLOSET,SHOWER,BATH,BATHTUB,PASSPORT CONTROL,CUSTOMS,BAGGAGE CLAIM,LEFT LUGGAGE,
     TRIANGLE WITH ROUNDED CORNERS,PROHIBITED SIGN,CIRCLED INFORMATION SOURCE,BOYS SYMBOL,
     GIRLS SYMBOL,COUCH AND LAMP,SLEEPING ACCOMMODATION,SHOPPING BAGS,BELLHOP BELL,BED,
     PLACE OF WORSHIP,OCTAGONAL SIGN,SHOPPING TROLLEY,STUPA,PAGODA,HINDU TEMPLE,HUT,ELEVATOR,,,,,,
     PLAYGROUND SLIDE,WHEEL,RING BUOY,HAMMER AND WRENCH,SHIELD,OIL DRUM,MOTORWAY,RAILWAY TRACK,
     MOTOR BOAT,UP-POINTING MILITARY AIRPLANE,aAIRPLANE,aSMALL AIRPLANE,SMALL AIRPLANE,
     NORTHEAST-POINTING AIRPLANE,AIRPLANE DEPARTURE,aARRIVING,,,,SATELLITE,ONCOMING FIRE ENGINE,
     DIESEL LOCOMOTIVE,PASSENGER SHIP,SCOOTER,MOTOR SCOOTER,CANOE,SLED,FLYING SAUCER,SKATEBOARD,
     AUTO RICKSHAW,PICKUP TRUCK,ROLLER SKATE,,,,ALCHEMICAL SYMBOL FOR QUINTESSENCE,cAIR,cFIRE,
     cEARTH,cWATER,cAQUAFORTIS,cAQUA REGIA,dREGIA-2,dVITAE,dVITAE-2,cVINEGAR,cVINEGAR-2,cVINEGAR-3,
     cSULFUR,cPHILOSOPHERS SULFUR,cBLACK SULFUR,cMERCURY SUBLIMATE,dSUBLIMATE-2,dSUBLIMATE-3,
     cCINNABAR,cSALT,cNITRE,cVITRIOL,cVITRIOL-2,cROCK SALT,dSALT-2,cGOLD,cSILVER,cIRON ORE,dORE-2,
     cCROCUS OF IRON,cREGULUS OF IRON,cCOPPER ORE,cIRON-COPPER ORE,cSUBLIMATE OF COPPER,
     cCROCUS OF COPPER,eCOPPER-2,cCOPPER ANTIMONIATE,cSALT OF COPPER ANTIMONIATE,
     cSUBLIMATE OF SALT OF COPPER,cVERDIGRIS,cTIN ORE,cLEAD ORE,cANTIMONY ORE,
     cSUBLIMATE OF ANTIMONY,cSALT OF ANTIMONY,cSUBLIMATE OF SALT OF ANTIMONY,cVINEGAR OF ANTIMONY,
     cREGULUS OF ANTIMONY,eANTIMONY-2,cREGULUS,cREGULUS-2,cREGULUS-3,cREGULUS-4,cALKALI,cALKALI-2,
     cMARCASITE,cSAL-AMMONIAC,cARSENIC,cREALGAR,cREALGAR-2,cAURIPIGMENT,cBISMUTH ORE,cTARTAR,
     cTARTAR-2,cQUICK LIME,cBORAX,cBORAX-2,cBORAX-3,cALUM,cOIL,cSPIRIT,cTINCTURE,cGUM,cWAX,cPOWDER,
     cCALX,cTUTTY,cCAPUT MORTUUM,cSCEPTER OF JOVE,cCADUCEUS,cTRIDENT,cSTARRED TRIDENT,cLODESTONE,
     cSOAP,cURINE,cHORSE DUNG,cASHES,cPOT ASHES,cBRICK,cPOWDERED BRICK,cAMALGAM,
     cSTRATUM SUPER STRATUM,eSTRATUM-2,cSUBLIMATION,cPRECIPITATE,cDISTILL,cDISSOLVE,cDISSOLVE-2,
     cPURIFY,cPUTREFACTION,cCRUCIBLE,cCRUCIBLE-2,cCRUCIBLE-3,cCRUCIBLE-4,cCRUCIBLE-5,cALEMBIC,
     cBATH OF MARY,eVAPOURS,cRETORT,cHOUR,cNIGHT,cDAY-NIGHT,cMONTH,cHALF DRAM,dOUNCE"),
   (0x1f780, "BLACK LEFT-POINTING ISOSCELES RIGHT TRIANGLE,aUP-POINTING ISOSCELES RIGHT TRIANGLE,
     aRIGHT-POINTING ISOSCELES RIGHT TRIANGLE,aDOWN-POINTING ISOSCELES RIGHT TRIANGLE,
     aSLIGHTLY SMALL CIRCLE,MEDIUM BOLD WHITE CIRCLE,BOLD WHITE CIRCLE,HEAVY WHITE CIRCLE,
     VERY HEAVY WHITE CIRCLE,EXTREMELY HEAVY WHITE CIRCLE,
     WHITE CIRCLE CONTAINING BLACK SMALL CIRCLE,ROUND TARGET,BLACK TINY SQUARE,
     aSLIGHTLY SMALL SQUARE,LIGHT WHITE SQUARE,MEDIUM WHITE SQUARE,BOLD WHITE SQUARE,
     HEAVY WHITE SQUARE,VERY HEAVY WHITE SQUARE,EXTREMELY HEAVY WHITE SQUARE,
     WHITE SQUARE CONTAINING BLACK VERY SMALL SQUARE,dMEDIUM SQUARE,SQUARE TARGET,
     BLACK TINY DIAMOND,aVERY SMALL DIAMOND,aMEDIUM SMALL DIAMOND,
     WHITE DIAMOND CONTAINING BLACK VERY SMALL DIAMOND,dMEDIUM DIAMOND,DIAMOND TARGET,
     BLACK TINY LOZENGE,aVERY SMALL LOZENGE,aMEDIUM SMALL LOZENGE,
     WHITE LOZENGE CONTAINING BLACK SMALL LOZENGE,THIN GREEK CROSS,LIGHT GREEK CROSS,
     MEDIUM GREEK CROSS,BOLD GREEK CROSS,VERY BOLD GREEK CROSS,aHEAVY GREEK CROSS,
     EXTREMELY HEAVY GREEK CROSS,THIN SALTIRE,LIGHT SALTIRE,MEDIUM SALTIRE,BOLD SALTIRE,
     HEAVY SALTIRE,VERY HEAVY SALTIRE,EXTREMELY HEAVY SALTIRE,LIGHT FIVE SPOKED ASTERISK,
     MEDIUM FIVE SPOKED ASTERISK,BOLD FIVE SPOKED ASTERISK,HEAVY FIVE SPOKED ASTERISK,
     VERY HEAVY FIVE SPOKED ASTERISK,EXTREMELY HEAVY FIVE SPOKED ASTERISK,LIGHT SIX SPOKED ASTERISK,
     MEDIUM SIX SPOKED ASTERISK,BOLD SIX SPOKED ASTERISK,HEAVY SIX SPOKED ASTERISK,
     VERY HEAVY SIX SPOKED ASTERISK,EXTREMELY HEAVY SIX SPOKED ASTERISK,LIGHT EIGHT SPOKED ASTERISK,
     MEDIUM EIGHT SPOKED ASTERISK,BOLD EIGHT SPOKED ASTERISK,HEAVY EIGHT SPOKED ASTERISK,
     VERY HEAVY EIGHT SPOKED ASTERISK,LIGHT THREE POINTED BLACK STAR,
     MEDIUM THREE POINTED BLACK STAR,THREE POINTED BLACK STAR,MEDIUM THREE POINTED PINWHEEL STAR,
     LIGHT FOUR POINTED BLACK STAR,MEDIUM FOUR POINTED BLACK STAR,FOUR POINTED BLACK STAR,
     MEDIUM FOUR POINTED PINWHEEL STAR,REVERSE LIGHT FOUR POINTED PINWHEEL STAR,
     LIGHT FIVE POINTED BLACK STAR,HEAVY FIVE POINTED BLACK STAR,MEDIUM SIX POINTED BLACK STAR,
     HEAVY SIX POINTED BLACK STAR,SIX POINTED PINWHEEL STAR,MEDIUM EIGHT POINTED BLACK STAR,
     HEAVY EIGHT POINTED BLACK STAR,VERY HEAVY EIGHT POINTED BLACK STAR,
     HEAVY EIGHT POINTED PINWHEEL STAR,LIGHT TWELVE POINTED BLACK STAR,
     HEAVY TWELVE POINTED BLACK STAR,cPINWHEEL STAR,CIRCLED TRIANGLE,NEGATIVE CIRCLED TRIANGLE,
     CIRCLED SQUARE,NEGATIVE CIRCLED SQUARE,,,,,,,,LARGE ORANGE CIRCLE,aYELLOW CIRCLE,aGREEN CIRCLE,
     aPURPLE CIRCLE,aBROWN CIRCLE,aRED SQUARE,aBLUE SQUARE,aORANGE SQUARE,aYELLOW SQUARE,
     aGREEN SQUARE,aPURPLE SQUARE,aBROWN SQUARE,,,,,HEAVY EQUALS SIGN"),
   (0x1f800, "LEFTWARDS ARROW WITH SMALL TRIANGLE ARROWHEAD,
     UPWARDS ARROW WITH SMALL TRIANGLE ARROWHEAD,RIGHTWARDS ARROW WITH SMALL TRIANGLE ARROWHEAD,
     DOWNWARDS ARROW WITH SMALL TRIANGLE ARROWHEAD,LEFTWARDS ARROW WITH MEDIUM TRIANGLE ARROWHEAD,
     UPWARDS ARROW WITH MEDIUM TRIANGLE ARROWHEAD,RIGHTWARDS ARROW WITH MEDIUM TRIANGLE ARROWHEAD,
     DOWNWARDS ARROW WITH MEDIUM TRIANGLE ARROWHEAD,LEFTWARDS ARROW WITH LARGE TRIANGLE ARROWHEAD,
     UPWARDS ARROW WITH LARGE TRIANGLE ARROWHEAD,RIGHTWARDS ARROW WITH LARGE TRIANGLE ARROWHEAD,
     DOWNWARDS ARROW WITH LARGE TRIANGLE ARROWHEAD,,,,,
     LEFTWARDS ARROW WITH SMALL EQUILATERAL ARROWHEAD,
     UPWARDS ARROW WITH SMALL EQUILATERAL ARROWHEAD,
     RIGHTWARDS ARROW WITH SMALL EQUILATERAL ARROWHEAD,
     DOWNWARDS ARROW WITH SMALL EQUILATERAL ARROWHEAD,LEFTWARDS ARROW WITH EQUILATERAL ARROWHEAD,
     UPWARDS ARROW WITH EQUILATERAL ARROWHEAD,RIGHTWARDS ARROW WITH EQUILATERAL ARROWHEAD,
     DOWNWARDS ARROW WITH EQUILATERAL ARROWHEAD,HEAVY LEFTWARDS ARROW WITH EQUILATERAL ARROWHEAD,
     aUPWARDS ARROW WITH EQUILATERAL ARROWHEAD,aRIGHTWARDS ARROW WITH EQUILATERAL ARROWHEAD,
     aDOWNWARDS ARROW WITH EQUILATERAL ARROWHEAD,aLEFTWARDS ARROW WITH LARGE EQUILATERAL ARROWHEAD,
     aUPWARDS ARROW WITH LARGE EQUILATERAL ARROWHEAD,
     aRIGHTWARDS ARROW WITH LARGE EQUILATERAL ARROWHEAD,
     aDOWNWARDS ARROW WITH LARGE EQUILATERAL ARROWHEAD,
     LEFTWARDS TRIANGLE-HEADED ARROW WITH NARROW SHAFT,
     UPWARDS TRIANGLE-HEADED ARROW WITH NARROW SHAFT,
     RIGHTWARDS TRIANGLE-HEADED ARROW WITH NARROW SHAFT,
     DOWNWARDS TRIANGLE-HEADED ARROW WITH NARROW SHAFT,
     LEFTWARDS TRIANGLE-HEADED ARROW WITH MEDIUM SHAFT,
     UPWARDS TRIANGLE-HEADED ARROW WITH MEDIUM SHAFT,
     RIGHTWARDS TRIANGLE-HEADED ARROW WITH MEDIUM SHAFT,
     DOWNWARDS TRIANGLE-HEADED ARROW WITH MEDIUM SHAFT,
     LEFTWARDS TRIANGLE-HEADED ARROW WITH BOLD SHAFT,UPWARDS TRIANGLE-HEADED ARROW WITH BOLD SHAFT,
     RIGHTWARDS TRIANGLE-HEADED ARROW WITH BOLD SHAFT,
     DOWNWARDS TRIANGLE-HEADED ARROW WITH BOLD SHAFT,
     LEFTWARDS TRIANGLE-HEADED ARROW WITH HEAVY SHAFT,
     UPWARDS TRIANGLE-HEADED ARROW WITH HEAVY SHAFT,
     RIGHTWARDS TRIANGLE-HEADED ARROW WITH HEAVY SHAFT,
     DOWNWARDS TRIANGLE-HEADED ARROW WITH HEAVY SHAFT,
     LEFTWARDS TRIANGLE-HEADED ARROW WITH VERY HEAVY SHAFT,
     UPWARDS TRIANGLE-HEADED ARROW WITH VERY HEAVY SHAFT,
     RIGHTWARDS TRIANGLE-HEADED ARROW WITH VERY HEAVY SHAFT,
     DOWNWARDS TRIANGLE-HEADED ARROW WITH VERY HEAVY SHAFT,LEFTWARDS FINGER-POST ARROW,
     UPWARDS FINGER-POST ARROW,RIGHTWARDS FINGER-POST ARROW,DOWNWARDS FINGER-POST ARROW,
     LEFTWARDS SQUARED ARROW,UPWARDS SQUARED ARROW,RIGHTWARDS SQUARED ARROW,DOWNWARDS SQUARED ARROW,
     LEFTWARDS COMPRESSED ARROW,UPWARDS COMPRESSED ARROW,RIGHTWARDS COMPRESSED ARROW,
     DOWNWARDS COMPRESSED ARROW,LEFTWARDS HEAVY COMPRESSED ARROW,UPWARDS HEAVY COMPRESSED ARROW,
     RIGHTWARDS HEAVY COMPRESSED ARROW,DOWNWARDS HEAVY COMPRESSED ARROW,LEFTWARDS HEAVY ARROW,
     UPWARDS HEAVY ARROW,RIGHTWARDS HEAVY ARROW,DOWNWARDS HEAVY ARROW,,,,,,,,,
     LEFTWARDS SANS-SERIF ARROW,UPWARDS SANS-SERIF ARROW,RIGHTWARDS SANS-SERIF ARROW,
     DOWNWARDS SANS-SERIF ARROW,NORTH WEST SANS-SERIF ARROW,aEAST SANS-SERIF ARROW,
     SOUTH EAST SANS-SERIF ARROW,aWEST SANS-SERIF ARROW,LEFT RIGHT SANS-SERIF ARROW,
     UP DOWN SANS-SERIF ARROW,,,,,,,WIDE-HEADED LEFTWARDS LIGHT BARB ARROW,
     aUPWARDS LIGHT BARB ARROW,aRIGHTWARDS LIGHT BARB ARROW,aDOWNWARDS LIGHT BARB ARROW,
     aNORTH WEST LIGHT BARB ARROW,bEAST LIGHT BARB ARROW,aSOUTH EAST LIGHT BARB ARROW,
     bWEST LIGHT BARB ARROW,aLEFTWARDS BARB ARROW,aUPWARDS BARB ARROW,aRIGHTWARDS BARB ARROW,
     aDOWNWARDS BARB ARROW,aNORTH WEST BARB ARROW,bEAST BARB ARROW,aSOUTH EAST BARB ARROW,
     bWEST BARB ARROW,aLEFTWARDS MEDIUM BARB ARROW,aUPWARDS MEDIUM BARB ARROW,
     aRIGHTWARDS MEDIUM BARB ARROW,aDOWNWARDS MEDIUM BARB ARROW,aNORTH WEST MEDIUM BARB ARROW,
     bEAST MEDIUM BARB ARROW,aSOUTH EAST MEDIUM BARB ARROW,bWEST MEDIUM BARB ARROW,
     aLEFTWARDS HEAVY BARB ARROW,aUPWARDS HEAVY BARB ARROW,aRIGHTWARDS HEAVY BARB ARROW,
     aDOWNWARDS HEAVY BARB ARROW,aNORTH WEST HEAVY BARB ARROW,bEAST HEAVY BARB ARROW,
     aSOUTH EAST HEAVY BARB ARROW,bWEST HEAVY BARB ARROW,aLEFTWARDS VERY HEAVY BARB ARROW,
     aUPWARDS VERY HEAVY BARB ARROW,aRIGHTWARDS VERY HEAVY BARB ARROW,
     aDOWNWARDS VERY HEAVY BARB ARROW,aNORTH WEST VERY HEAVY BARB ARROW,bEAST VERY HEAVY BARB ARROW,
     aSOUTH EAST VERY HEAVY BARB ARROW,bWEST VERY HEAVY BARB ARROW,,,,,,,,,
     LEFTWARDS TRIANGLE ARROWHEAD,UPWARDS TRIANGLE ARROWHEAD,RIGHTWARDS TRIANGLE ARROWHEAD,
     DOWNWARDS TRIANGLE ARROWHEAD,LEFTWARDS WHITE ARROW WITHIN TRIANGLE ARROWHEAD,
     UPWARDS WHITE ARROW WITHIN TRIANGLE ARROWHEAD,RIGHTWARDS WHITE ARROW WITHIN TRIANGLE ARROWHEAD,
     DOWNWARDS WHITE ARROW WITHIN TRIANGLE ARROWHEAD,LEFTWARDS ARROW WITH NOTCHED TAIL,
     UPWARDS ARROW WITH NOTCHED TAIL,RIGHTWARDS ARROW WITH NOTCHED TAIL,
     DOWNWARDS ARROW WITH NOTCHED TAIL,HEAVY ARROW SHAFT WIDTH ONE,dTWO THIRDS,dONE HALF,eTHIRD,
     LEFTWARDS BOTTOM-SHADED WHITE ARROW,RIGHTWARDS BOTTOM SHADED WHITE ARROW,
     LEFTWARDS TOP SHADED WHITE ARROW,RIGHTWARDS TOP SHADED WHITE ARROW,
     LEFTWARDS LEFT-SHADED WHITE ARROW,RIGHTWARDS RIGHT-SHADED WHITE ARROW,
     LEFTWARDS RIGHT-SHADED WHITE ARROW,RIGHTWARDS LEFT-SHADED WHITE ARROW,
     LEFTWARDS BACK-TILTED SHADOWED WHITE ARROW,RIGHTWARDS BACK-TILTED SHADOWED WHITE ARROW,
     LEFTWARDS FRONT-TILTED SHADOWED WHITE ARROW,RIGHTWARDS FRONT-TILTED SHADOWED WHITE ARROW,
     WHITE ARROW SHAFT WIDTH ONE,dTWO THIRDS,,,ARROW POINTING UPWARDS THEN NORTH WEST,
     bRIGHTWARDS THEN CURVING SOUTH WEST"),
   (0x1f900, "CIRCLED CROSS FORMEE WITH FOUR DOTS,dTWO DOTS,bFORMEE,LEFT HALF CIRCLE WITH FOUR DOTS,
     dTHREE DOTS,dTWO DOTS,dDOT,bCIRCLE,DOWNWARD FACING HOOK,bNOTCHED HOOK,bHOOK WITH DOT,
     bNOTCHED HOOK WITH DOT,PINCHED FINGERS,WHITE HEART,BROWN HEART,PINCHING HAND,ZIPPER-MOUTH FACE,
     MONEY-MOUTH FACE,FACE WITH THERMOMETER,NERD FACE,THINKING FACE,FACE WITH HEAD-BANDAGE,
     ROBOT FACE,HUGGING FACE,SIGN OF THE HORNS,CALL ME HAND,RAISED BACK OF HAND,LEFT-FACING FIST,
     RIGHT-FACING FIST,HANDSHAKE,HAND WITH INDEX AND MIDDLE FINGERS CROSSED,I LOVE YOU HAND SIGN,
     FACE WITH COWBOY HAT,CLOWN FACE,NAUSEATED FACE,ROLLING ON THE FLOOR LAUGHING,DROOLING FACE,
     LYING FACE,FACE PALM,SNEEZING FACE,FACE WITH ONE EYEBROW RAISED,GRINNING FACE WITH STAR EYES,
     cONE LARGE AND ONE SMALL EYE,FACE WITH FINGER COVERING CLOSED LIPS,
     SERIOUS FACE WITH SYMBOLS COVERING MOUTH,
     SMILING FACE WITH SMILING EYES AND HAND COVERING MOUTH,FACE WITH OPEN MOUTH VOMITING,
     SHOCKED FACE WITH EXPLODING HEAD,PREGNANT WOMAN,BREAST-FEEDING,PALMS UP TOGETHER,SELFIE,PRINCE,
     MAN IN TUXEDO,MOTHER CHRISTMAS,SHRUG,PERSON DOING CARTWHEEL,JUGGLING,FENCER,MODERN PENTATHLON,
     WRESTLERS,WATER POLO,HANDBALL,DIVING MASK,WILTED FLOWER,DRUM WITH DRUMSTICKS,CLINKING GLASSES,
     TUMBLER GLASS,SPOON,GOAL NET,RIFLE,FIRST PLACE MEDAL,SECOND PLACE MEDAL,THIRD PLACE MEDAL,
     BOXING GLOVE,MARTIAL ARTS UNIFORM,CURLING STONE,LACROSSE STICK AND BALL,SOFTBALL,FLYING DISC,
     CROISSANT,AVOCADO,CUCUMBER,BACON,POTATO,CARROT,BAGUETTE BREAD,GREEN SALAD,SHALLOW PAN OF FOOD,
     STUFFED FLATBREAD,EGG,GLASS OF MILK,PEANUTS,KIWIFRUIT,PANCAKES,DUMPLING,FORTUNE COOKIE,
     TAKEOUT BOX,CHOPSTICKS,BOWL WITH SPOON,CUP WITH STRAW,COCONUT,BROCCOLI,PIE,PRETZEL,CUT OF MEAT,
     SANDWICH,CANNED FOOD,LEAFY GREEN,MANGO,MOON CAKE,BAGEL,
     SMILING FACE WITH SMILING EYES AND THREE HEARTS,YAWNING FACE,SMILING FACE WITH TEAR,
     FACE WITH PARTY HORN AND PARTY HAT,bUNEVEN EYES AND WAVY MOUTH,OVERHEATED FACE,FREEZING FACE,
     NINJA,DISGUISED FACE,FACE HOLDING BACK TEARS,aWITH PLEADING EYES,SARI,LAB COAT,GOGGLES,
     HIKING BOOT,FLAT SHOE,CRAB,LION FACE,SCORPION,TURKEY,UNICORN FACE,EAGLE,DUCK,BAT,SHARK,OWL,
     FOX FACE,BUTTERFLY,DEER,GORILLA,LIZARD,RHINOCEROS,SHRIMP,SQUID,GIRAFFE FACE,ZEBRA FACE,
     HEDGEHOG,SAUROPOD,T-REX,CRICKET,KANGAROO,LLAMA,PEACOCK,HIPPOPOTAMUS,PARROT,RACCOON,LOBSTER,
     MOSQUITO,MICROBE,BADGER,SWAN,MAMMOTH,DODO,SLOTH,OTTER,ORANGUTAN,SKUNK,FLAMINGO,OYSTER,BEAVER,
     BISON,SEAL,GUIDE DOG,PROBING CANE,EMOJI COMPONENT RED HAIR,bCURLY HAIR,bBALD,bWHITE HAIR,BONE,
     LEG,FOOT,TOOTH,SUPERHERO,SUPERVILLAIN,SAFETY VEST,EAR WITH HEARING AID,MOTORIZED WHEELCHAIR,
     MANUAL WHEELCHAIR,MECHANICAL ARM,aLEG,CHEESE WEDGE,CUPCAKE,SALT SHAKER,BEVERAGE BOX,GARLIC,
     ONION,FALAFEL,WAFFLE,BUTTER,MATE DRINK,ICE CUBE,BUBBLE TEA,TROLL,STANDING PERSON,
     KNEELING PERSON,DEAF PERSON,FACE WITH MONOCLE,ADULT,CHILD,OLDER ADULT,BEARDED PERSON,
     PERSON WITH HEADSCARF,aIN STEAMY ROOM,aCLIMBING,aIN LOTUS POSITION,MAGE,FAIRY,VAMPIRE,
     MERPERSON,ELF,GENIE,ZOMBIE,BRAIN,ORANGE HEART,BILLED CAP,SCARF,GLOVES,COAT,SOCKS,
     RED GIFT ENVELOPE,FIRECRACKER,JIGSAW PUZZLE PIECE,TEST TUBE,PETRI DISH,DNA DOUBLE HELIX,
     COMPASS,ABACUS,FIRE EXTINGUISHER,TOOLBOX,BRICK,MAGNET,LUGGAGE,LOTION BOTTLE,SPOOL OF THREAD,
     BALL OF YARN,SAFETY PIN,TEDDY BEAR,BROOM,BASKET,ROLL OF PAPER,BAR OF SOAP,SPONGE,RECEIPT,
     NAZAR AMULET,NEUTRAL CHESS KING,bQUEEN,bROOK,bBISHOP,bKNIGHT,bPAWN,
     WHITE CHESS KNIGHT ROTATED FORTY-FIVE DEGREES,BLACK CHESS KNIGHT ROTATED FORTY-FIVE DEGREES,
     NEUTRAL CHESS KNIGHT ROTATED FORTY-FIVE DEGREES,WHITE CHESS KING ROTATED NINETY DEGREES,
     bQUEEN ROTATED NINETY DEGREES,bROOK ROTATED NINETY DEGREES,bBISHOP ROTATED NINETY DEGREES,
     bKNIGHT ROTATED NINETY DEGREES,bPAWN ROTATED NINETY DEGREES,
     BLACK CHESS KING ROTATED NINETY DEGREES,bQUEEN ROTATED NINETY DEGREES,
     bROOK ROTATED NINETY DEGREES,bBISHOP ROTATED NINETY DEGREES,bKNIGHT ROTATED NINETY DEGREES,
     bPAWN ROTATED NINETY DEGREES,NEUTRAL CHESS KING ROTATED NINETY DEGREES,
     bQUEEN ROTATED NINETY DEGREES,bROOK ROTATED NINETY DEGREES,bBISHOP ROTATED NINETY DEGREES,
     bKNIGHT ROTATED NINETY DEGREES,bPAWN ROTATED NINETY DEGREES,
     WHITE CHESS KNIGHT ROTATED ONE HUNDRED THIRTY-FIVE DEGREES,
     BLACK CHESS KNIGHT ROTATED ONE HUNDRED THIRTY-FIVE DEGREES,
     NEUTRAL CHESS KNIGHT ROTATED ONE HUNDRED THIRTY-FIVE DEGREES,WHITE CHESS TURNED KING,cQUEEN,
     cROOK,cBISHOP,cKNIGHT,cPAWN,BLACK CHESS TURNED KING,cQUEEN,cROOK,cBISHOP,cKNIGHT,cPAWN,
     NEUTRAL CHESS TURNED KING,cQUEEN,cROOK,cBISHOP,cKNIGHT,cPAWN,
     WHITE CHESS KNIGHT ROTATED TWO HUNDRED TWENTY-FIVE DEGREES,
     BLACK CHESS KNIGHT ROTATED TWO HUNDRED TWENTY-FIVE DEGREES,
     NEUTRAL CHESS KNIGHT ROTATED TWO HUNDRED TWENTY-FIVE DEGREES,
     WHITE CHESS KING ROTATED TWO HUNDRED SEVENTY DEGREES,
     bQUEEN ROTATED TWO HUNDRED SEVENTY DEGREES,bROOK ROTATED TWO HUNDRED SEVENTY DEGREES,
     bBISHOP ROTATED TWO HUNDRED SEVENTY DEGREES,bKNIGHT ROTATED TWO HUNDRED SEVENTY DEGREES,
     bPAWN ROTATED TWO HUNDRED SEVENTY DEGREES,BLACK CHESS KING ROTATED TWO HUNDRED SEVENTY DEGREES,
     bQUEEN ROTATED TWO HUNDRED SEVENTY DEGREES,bROOK ROTATED TWO HUNDRED SEVENTY DEGREES,
     bBISHOP ROTATED TWO HUNDRED SEVENTY DEGREES,bKNIGHT ROTATED TWO HUNDRED SEVENTY DEGREES,
     bPAWN ROTATED TWO HUNDRED SEVENTY DEGREES,
     NEUTRAL CHESS KING ROTATED TWO HUNDRED SEVENTY DEGREES,
     bQUEEN ROTATED TWO HUNDRED SEVENTY DEGREES,bROOK ROTATED TWO HUNDRED SEVENTY DEGREES,
     bBISHOP ROTATED TWO HUNDRED SEVENTY DEGREES,bKNIGHT ROTATED TWO HUNDRED SEVENTY DEGREES,
     bPAWN ROTATED TWO HUNDRED SEVENTY DEGREES,
     WHITE CHESS KNIGHT ROTATED THREE HUNDRED FIFTEEN DEGREES,
     BLACK CHESS KNIGHT ROTATED THREE HUNDRED FIFTEEN DEGREES,
     NEUTRAL CHESS KNIGHT ROTATED THREE HUNDRED FIFTEEN DEGREES,WHITE CHESS EQUIHOPPER,
     BLACK CHESS EQUIHOPPER,NEUTRAL CHESS EQUIHOPPER,WHITE CHESS EQUIHOPPER ROTATED NINETY DEGREES,
     BLACK CHESS EQUIHOPPER ROTATED NINETY DEGREES,NEUTRAL CHESS EQUIHOPPER ROTATED NINETY DEGREES,
     WHITE CHESS KNIGHT-QUEEN,bKNIGHT-ROOK,bKNIGHT-BISHOP,BLACK CHESS KNIGHT-QUEEN,bKNIGHT-ROOK,
     bKNIGHT-BISHOP"),
   (0x1fa60, "XIANGQI RED GENERAL,bMANDARIN,bELEPHANT,bHORSE,bCHARIOT,bCANNON,bSOLDIER,
     aBLACK GENERAL,bMANDARIN,bELEPHANT,bHORSE,bCHARIOT,bCANNON,bSOLDIER,,,BALLET SHOES,
     ONE-PIECE SWIMSUIT,BRIEFS,SHORTS,THONG SANDAL,,,,DROP OF BLOOD,ADHESIVE BANDAGE,STETHOSCOPE,
     X-RAY,CRUTCH,,,,YO-YO,KITE,PARACHUTE,BOOMERANG,MAGIC WAND,PINATA,NESTING DOLLS"),
   (0x1fa90, "RINGED PLANET,CHAIR,RAZOR,AXE,DIYA LAMP,BANJO,MILITARY HELMET,ACCORDION,LONG DRUM,
     COIN,CARPENTRY SAW,SCREWDRIVER,LADDER,HOOK,MIRROR,WINDOW,PLUNGER,SEWING NEEDLE,KNOT,BUCKET,
     MOUSE TRAP,TOOTHBRUSH,HEADSTONE,PLACARD,ROCK,MIRROR BALL,IDENTIFICATION CARD,LOW BATTERY,HAMSA,
     ,,,FLY,WORM,BEETLE,COCKROACH,POTTED PLANT,WOOD,FEATHER,LOTUS,CORAL,EMPTY NEST,NEST WITH EGGS,,,
     ,,,ANATOMICAL HEART,LUNGS,PEOPLE HUGGING,PREGNANT MAN,aPERSON,PERSON WITH CROWN"),
   (0x1fad0, "BLUEBERRIES,BELL PEPPER,OLIVE,FLATBREAD,TAMALE,FONDUE,TEAPOT,POURING LIQUID,BEANS,JAR,
     ,,,,,,MELTING FACE,SALUTING FACE,FACE WITH OPEN EYES AND HAND OVER MOUTH,bPEEKING EYE,
     bDIAGONAL MOUTH,DOTTED LINE FACE,BITING LIP,BUBBLES,,,,,,,,,
     HAND WITH INDEX FINGER AND THUMB CROSSED,RIGHTWARDS HAND,LEFTWARDS HAND,PALM DOWN HAND,
     aUP HAND,INDEX POINTING AT THE VIEWER,HEART HANDS"),
   (0x1fb00, "BLOCK SEXTANT-1,aSEXTANT-2,aSEXTANT-12,aSEXTANT-3,aSEXTANT-13,aSEXTANT-23,
     aSEXTANT-123,aSEXTANT-4,aSEXTANT-14,aSEXTANT-24,aSEXTANT-124,aSEXTANT-34,aSEXTANT-134,
     aSEXTANT-234,aSEXTANT-1234,aSEXTANT-5,aSEXTANT-15,aSEXTANT-25,aSEXTANT-125,aSEXTANT-35,
     aSEXTANT-235,aSEXTANT-1235,aSEXTANT-45,aSEXTANT-145,aSEXTANT-245,aSEXTANT-1245,aSEXTANT-345,
     aSEXTANT-1345,aSEXTANT-2345,aSEXTANT-12345,aSEXTANT-6,aSEXTANT-16,aSEXTANT-26,aSEXTANT-126,
     aSEXTANT-36,aSEXTANT-136,aSEXTANT-236,aSEXTANT-1236,aSEXTANT-46,aSEXTANT-146,aSEXTANT-1246,
     aSEXTANT-346,aSEXTANT-1346,aSEXTANT-2346,aSEXTANT-12346,aSEXTANT-56,aSEXTANT-156,aSEXTANT-256,
     aSEXTANT-1256,aSEXTANT-356,aSEXTANT-1356,aSEXTANT-2356,aSEXTANT-12356,aSEXTANT-456,
     aSEXTANT-1456,aSEXTANT-2456,aSEXTANT-12456,aSEXTANT-3456,aSEXTANT-13456,aSEXTANT-23456,
     LOWER LEFT BLOCK DIAGONAL LOWER MIDDLE LEFT TO LOWER CENTRE,iRIGHT,
     dUPPER MIDDLE LEFT TO LOWER CENTRE,iRIGHT,eLEFT TO LOWER CENTRE,
     aRIGHT BLOCK DIAGONAL UPPER MIDDLE LEFT TO UPPER CENTRE,iRIGHT,
     dLOWER MIDDLE LEFT TO UPPER CENTRE,iRIGHT,eLEFT TO UPPER CENTRE,
     eMIDDLE LEFT TO UPPER MIDDLE RIGHT,eCENTRE TO LOWER MIDDLE RIGHT,eLEFT TO LOWER MIDDLE RIGHT,
     eCENTRE TO UPPER MIDDLE RIGHT,eLEFT TO UPPER MIDDLE RIGHT,eCENTRE TO UPPER RIGHT,
     aLEFT BLOCK DIAGONAL UPPER CENTRE TO UPPER MIDDLE RIGHT,eLEFT TO UPPER MIDDLE RIGHT,
     eCENTRE TO LOWER MIDDLE RIGHT,eLEFT TO LOWER MIDDLE RIGHT,eCENTRE TO LOWER RIGHT,
     eMIDDLE LEFT TO LOWER MIDDLE RIGHT,
     UPPER RIGHT BLOCK DIAGONAL LOWER MIDDLE LEFT TO LOWER CENTRE,iRIGHT,
     dUPPER MIDDLE LEFT TO LOWER CENTRE,iRIGHT,eLEFT TO LOWER CENTRE,
     aLEFT BLOCK DIAGONAL UPPER MIDDLE LEFT TO UPPER CENTRE,iRIGHT,
     dLOWER MIDDLE LEFT TO UPPER CENTRE,iRIGHT,eLEFT TO UPPER CENTRE,
     eMIDDLE LEFT TO UPPER MIDDLE RIGHT,eCENTRE TO LOWER MIDDLE RIGHT,eLEFT TO LOWER MIDDLE RIGHT,
     eCENTRE TO UPPER MIDDLE RIGHT,eLEFT TO UPPER MIDDLE RIGHT,eCENTRE TO UPPER RIGHT,
     aRIGHT BLOCK DIAGONAL UPPER CENTRE TO UPPER MIDDLE RIGHT,eLEFT TO UPPER MIDDLE RIGHT,
     eCENTRE TO LOWER MIDDLE RIGHT,eLEFT TO LOWER MIDDLE RIGHT,eCENTRE TO LOWER RIGHT,
     eMIDDLE LEFT TO LOWER MIDDLE RIGHT,aAND RIGHT AND LOWER TRIANGULAR THREE QUARTERS BLOCK,
     LEFT AND LOWER AND RIGHT TRIANGULAR THREE QUARTERS BLOCK,
     UPPER AND LEFT AND LOWER TRIANGULAR THREE QUARTERS BLOCK,
     LEFT AND UPPER AND RIGHT TRIANGULAR THREE QUARTERS BLOCK,aTRIANGULAR ONE QUARTER BLOCK,
     UPPER TRIANGULAR ONE QUARTER BLOCK,RIGHT TRIANGULAR ONE QUARTER BLOCK,
     LOWER TRIANGULAR ONE QUARTER BLOCK,VERTICAL ONE EIGHTH BLOCK-2,cBLOCK-3,cBLOCK-4,cBLOCK-5,
     cBLOCK-6,cBLOCK-7,HORIZONTAL ONE EIGHTH BLOCK-2,cBLOCK-3,cBLOCK-4,cBLOCK-5,cBLOCK-6,cBLOCK-7,
     LEFT AND LOWER ONE EIGHTH BLOCK,bUPPER ONE EIGHTH BLOCK,RIGHT AND UPPER ONE EIGHTH BLOCK,
     bLOWER ONE EIGHTH BLOCK,UPPER AND LOWER ONE EIGHTH BLOCK,HORIZONTAL ONE EIGHTH BLOCK-1358,
     UPPER ONE QUARTER BLOCK,aTHREE EIGHTHS BLOCK,aFIVE EIGHTHS BLOCK,aTHREE QUARTERS BLOCK,
     aSEVEN EIGHTHS BLOCK,RIGHT ONE QUARTER BLOCK,aTHREE EIGHTHS BLOCK,aFIVE EIGHTHS BLOCK,
     aTHREE QUARTERS BLOCK,aSEVEN EIGHTHS BLOCK,LEFT HALF MEDIUM SHADE,RIGHT HALF MEDIUM SHADE,
     UPPER HALF MEDIUM SHADE,LOWER HALF MEDIUM SHADE,INVERSE MEDIUM SHADE,
     UPPER HALF BLOCK AND LOWER HALF INVERSE MEDIUM SHADE,
     bINVERSE MEDIUM SHADE AND LOWER HALF BLOCK,,
     LEFT HALF INVERSE MEDIUM SHADE AND RIGHT HALF BLOCK,CHECKER BOARD FILL,
     INVERSE CHECKER BOARD FILL,HEAVY HORIZONTAL FILL,UPPER LEFT TO LOWER RIGHT FILL,
     aRIGHT TO LOWER LEFT FILL,aAND LOWER TRIANGULAR HALF BLOCK,
     LEFT AND RIGHT TRIANGULAR HALF BLOCK,UPPER LEFT TRIANGULAR MEDIUM SHADE,
     aRIGHT TRIANGULAR MEDIUM SHADE,LOWER RIGHT TRIANGULAR MEDIUM SHADE,
     aLEFT TRIANGULAR MEDIUM SHADE,BOX DRAWINGS LIGHT DIAGONAL UPPER CENTRE TO MIDDLE LEFT,hRIGHT,
     dMIDDLE LEFT TO LOWER CENTRE,eRIGHT TO LOWER CENTRE,
     dUPPER CENTRE TO MIDDLE LEFT TO LOWER CENTRE,hRIGHT TO LOWER CENTRE,
     dMIDDLE LEFT TO LOWER CENTRE TO MIDDLE RIGHT,gUPPER CENTRE TO MIDDLE RIGHT,
     dUPPER CENTRE TO MIDDLE LEFT AND MIDDLE RIGHT TO LOWER CENTRE,
     hRIGHT AND MIDDLE LEFT TO LOWER CENTRE,iTO LOWER CENTRE TO MIDDLE LEFT,
     hLEFT TO LOWER CENTRE TO MIDDLE RIGHT,
     dMIDDLE LEFT TO UPPER CENTRE TO MIDDLE RIGHT TO LOWER CENTRE,
     eRIGHT TO UPPER CENTRE TO MIDDLE LEFT TO LOWER CENTRE,dDIAMOND,
     cHORIZONTAL WITH VERTICAL STROKE,ARROWHEAD-SHAPED POINTER,INVERSE CHECK MARK,
     LEFT HALF RUNNING MAN,RIGHT HALF RUNNING MAN,INVERSE DOWNWARDS ARROW WITH TIP LEFTWARDS,
     LEFTWARDS ARROW AND UPPER AND LOWER ONE EIGHTH BLOCK,
     RIGHTWARDS ARROW AND UPPER AND LOWER ONE EIGHTH BLOCK,
     DOWNWARDS ARROW AND RIGHT ONE EIGHTH BLOCK,UPWARDS ARROW AND RIGHT ONE EIGHTH BLOCK,
     LEFT HALF FOLDER,RIGHT HALF FOLDER,VOIDED GREEK CROSS,RIGHT OPEN SQUARED DOT,
     NEGATIVE DIAGONAL CROSS,bMIDDLE RIGHT TO LOWER CENTRE,bDIAMOND,
     WHITE HEAVY SALTIRE WITH ROUNDED CORNERS,LEFT THIRD WHITE RIGHT POINTING INDEX,
     MIDDLE THIRD WHITE RIGHT POINTING INDEX,RIGHT THIRD WHITE RIGHT POINTING INDEX,
     NEGATIVE SQUARED QUESTION MARK,STICK FIGURE,bWITH ARMS RAISED,bLEANING LEFT,cRIGHT,bWITH DRESS,
     WHITE UP-POINTING CHEVRON"),
   (0x1fbf0, "SEGMENTED DIGIT ZERO,bONE,bTWO,bTHREE,bFOUR,bFIVE,bSIX,bSEVEN,bEIGHT,bNINE"),
   (0xe0001, "LANGUAGE TAG"),
   (0xe0020, "TAG SPACE,aEXCLAMATION MARK,aQUOTATION MARK,aNUMBER SIGN,aDOLLAR SIGN,aPERCENT SIGN,
     aAMPERSAND,aAPOSTROPHE,aLEFT PARENTHESIS,aRIGHT PARENTHESIS,aASTERISK,aPLUS SIGN,aCOMMA,
     aHYPHEN-MINUS,aFULL STOP,aSOLIDUS,aDIGIT ZERO,bONE,bTWO,bTHREE,bFOUR,bFIVE,bSIX,bSEVEN,bEIGHT,
     bNINE,aCOLON,aSEMICOLON,aLESS-THAN SIGN,aEQUALS SIGN,aGREATER-THAN SIGN,aQUESTION MARK,
     aCOMMERCIAL AT,aLATIN CAPITAL LETTER A,dB,dC,dD,dE,dF,dG,dH,dI,dJ,dK,dL,dM,dN,dO,dP,dQ,dR,dS,
     dT,dU,dV,dW,dX,dY,dZ,aLEFT SQUARE BRACKET,aREVERSE SOLIDUS,aRIGHT SQUARE BRACKET,
     aCIRCUMFLEX ACCENT,aLOW LINE,aGRAVE ACCENT,aLATIN SMALL LETTER A,dB,dC,dD,dE,dF,dG,dH,dI,dJ,dK,
     dL,dM,dN,dO,dP,dQ,dR,dS,dT,dU,dV,dW,dX,dY,dZ,aLEFT CURLY BRACKET,aVERTICAL LINE,
     aRIGHT CURLY BRACKET,aTILDE,CANCEL TAG"),
   (0xe0100, "VARIATION SELECTOR-17,aSELECTOR-18,aSELECTOR-19,aSELECTOR-20,aSELECTOR-21,
     aSELECTOR-22,aSELECTOR-23,aSELECTOR-24,aSELECTOR-25,aSELECTOR-26,aSELECTOR-27,aSELECTOR-28,
     aSELECTOR-29,aSELECTOR-30,aSELECTOR-31,aSELECTOR-32,aSELECTOR-33,aSELECTOR-34,aSELECTOR-35,
     aSELECTOR-36,aSELECTOR-37,aSELECTOR-38,aSELECTOR-39,aSELECTOR-40,aSELECTOR-41,aSELECTOR-42,
     aSELECTOR-43,aSELECTOR-44,aSELECTOR-45,aSELECTOR-46,aSELECTOR-47,aSELECTOR-48,aSELECTOR-49,
     aSELECTOR-50,aSELECTOR-51,aSELECTOR-52,aSELECTOR-53,aSELECTOR-54,aSELECTOR-55,aSELECTOR-56,
     aSELECTOR-57,aSELECTOR-58,aSELECTOR-59,aSELECTOR-60,aSELECTOR-61,aSELECTOR-62,aSELECTOR-63,
     aSELECTOR-64,aSELECTOR-65,aSELECTOR-66,aSELECTOR-67,aSELECTOR-68,aSELECTOR-69,aSELECTOR-70,
     aSELECTOR-71,aSELECTOR-72,aSELECTOR-73,aSELECTOR-74,aSELECTOR-75,aSELECTOR-76,aSELECTOR-77,
     aSELECTOR-78,aSELECTOR-79,aSELECTOR-80,aSELECTOR-81,aSELECTOR-82,aSELECTOR-83,aSELECTOR-84,
     aSELECTOR-85,aSELECTOR-86,aSELECTOR-87,aSELECTOR-88,aSELECTOR-89,aSELECTOR-90,aSELECTOR-91,
     aSELECTOR-92,aSELECTOR-93,aSELECTOR-94,aSELECTOR-95,aSELECTOR-96,aSELECTOR-97,aSELECTOR-98,
     aSELECTOR-99,aSELECTOR-100,aSELECTOR-101,aSELECTOR-102,aSELECTOR-103,aSELECTOR-104,
     aSELECTOR-105,aSELECTOR-106,aSELECTOR-107,aSELECTOR-108,aSELECTOR-109,aSELECTOR-110,
     aSELECTOR-111,aSELECTOR-112,aSELECTOR-113,aSELECTOR-114,aSELECTOR-115,aSELECTOR-116,
     aSELECTOR-117,aSELECTOR-118,aSELECTOR-119,aSELECTOR-120,aSELECTOR-121,aSELECTOR-122,
     aSELECTOR-123,aSELECTOR-124,aSELECTOR-125,aSELECTOR-126,aSELECTOR-127,aSELECTOR-128,
     aSELECTOR-129,aSELECTOR-130,aSELECTOR-131,aSELECTOR-132,aSELECTOR-133,aSELECTOR-134,
     aSELECTOR-135,aSELECTOR-136,aSELECTOR-137,aSELECTOR-138,aSELECTOR-139,aSELECTOR-140,
     aSELECTOR-141,aSELECTOR-142,aSELECTOR-143,aSELECTOR-144,aSELECTOR-145,aSELECTOR-146,
     aSELECTOR-147,aSELECTOR-148,aSELECTOR-149,aSELECTOR-150,aSELECTOR-151,aSELECTOR-152,
     aSELECTOR-153,aSELECTOR-154,aSELECTOR-155,aSELECTOR-156,aSELECTOR-157,aSELECTOR-158,
     aSELECTOR-159,aSELECTOR-160,aSELECTOR-161,aSELECTOR-162,aSELECTOR-163,aSELECTOR-164,
     aSELECTOR-165,aSELECTOR-166,aSELECTOR-167,aSELECTOR-168,aSELECTOR-169,aSELECTOR-170,
     aSELECTOR-171,aSELECTOR-172,aSELECTOR-173,aSELECTOR-174,aSELECTOR-175,aSELECTOR-176,
     aSELECTOR-177,aSELECTOR-178,aSELECTOR-179,aSELECTOR-180,aSELECTOR-181,aSELECTOR-182,
     aSELECTOR-183,aSELECTOR-184,aSELECTOR-185,aSELECTOR-186,aSELECTOR-187,aSELECTOR-188,
     aSELECTOR-189,aSELECTOR-190,aSELECTOR-191,aSELECTOR-192,aSELECTOR-193,aSELECTOR-194,
     aSELECTOR-195,aSELECTOR-196,aSELECTOR-197,aSELECTOR-198,aSELECTOR-199,aSELECTOR-200,
     aSELECTOR-201,aSELECTOR-202,aSELECTOR-203,aSELECTOR-204,aSELECTOR-205,aSELECTOR-206,
     aSELECTOR-207,aSELECTOR-208,aSELECTOR-209,aSELECTOR-210,aSELECTOR-211,aSELECTOR-212,
     aSELECTOR-213,aSELECTOR-214,aSELECTOR-215,aSELECTOR-216,aSELECTOR-217,aSELECTOR-218,
     aSELECTOR-219,aSELECTOR-220,aSELECTOR-221,aSELECTOR-222,aSELECTOR-223,aSELECTOR-224,
     aSELECTOR-225,aSELECTOR-226,aSELECTOR-227,aSELECTOR-228,aSELECTOR-229,aSELECTOR-230,
     aSELECTOR-231,aSELECTOR-232,aSELECTOR-233,aSELECTOR-234,aSELECTOR-235,aSELECTOR-236,
     aSELECTOR-237,aSELECTOR-238,aSELECTOR-239,aSELECTOR-240,aSELECTOR-241,aSELECTOR-242,
     aSELECTOR-243,aSELECTOR-244,aSELECTOR-245,aSELECTOR-246,aSELECTOR-247,aSELECTOR-248,
     aSELECTOR-249,aSELECTOR-250,aSELECTOR-251,aSELECTOR-252,aSELECTOR-253,aSELECTOR-254,
     aSELECTOR-255,aSELECTOR-256")]

/-- Further names, among them those of the controls, each with its code point in base sixteen. -/
def furtherNames : String :=
  "NULL=0,NUL=0,START OF HEADING=1,SOH=1,START OF TEXT=2,STX=2,END OF TEXT=3,ETX=3,
   END OF TRANSMISSION=4,EOT=4,ENQUIRY=5,ENQ=5,ACKNOWLEDGE=6,ACK=6,ALERT=7,BEL=7,BACKSPACE=8,BS=8,
   CHARACTER TABULATION=9,HORIZONTAL TABULATION=9,HT=9,TAB=9,LINE FEED=a,NEW LINE=a,END OF LINE=a,
   EOL=a,LF=a,NL=a,LINE TABULATION=b,VERTICAL TABULATION=b,VT=b,FORM FEED=c,FF=c,
   CARRIAGE RETURN=d,CR=d,SHIFT OUT=e,LOCKING-SHIFT ONE=e,SO=e,SHIFT IN=f,LOCKING-SHIFT ZERO=f,
   SI=f,DATA LINK ESCAPE=10,DLE=10,DEVICE CONTROL ONE=11,DC1=11,DEVICE CONTROL TWO=12,DC2=12,
   DEVICE CONTROL THREE=13,DC3=13,DEVICE CONTROL FOUR=14,DC4=14,NEGATIVE ACKNOWLEDGE=15,NAK=15,
   SYNCHRONOUS IDLE=16,SYN=16,END OF TRANSMISSION BLOCK=17,ETB=17,CANCEL=18,CAN=18,
   END OF MEDIUM=19,EOM=19,SUBSTITUTE=1a,SUB=1a,ESCAPE=1b,ESC=1b,INFORMATION SEPARATOR FOUR=1c,
   FILE SEPARATOR=1c,FS=1c,INFORMATION SEPARATOR THREE=1d,GROUP SEPARATOR=1d,GS=1d,
   INFORMATION SEPARATOR TWO=1e,RECORD SEPARATOR=1e,RS=1e,INFORMATION SEPARATOR ONE=1f,
   UNIT SEPARATOR=1f,US=1f,SP=20,DELETE=7f,DEL=7f,PADDING CHARACTER=80,PAD=80,
   HIGH OCTET PRESET=81,HOP=81,BREAK PERMITTED HERE=82,BPH=82,NO BREAK HERE=83,NBH=83,INDEX=84,
   IND=84,NEXT LINE=85,NEL=85,START OF SELECTED AREA=86,SSA=86,END OF SELECTED AREA=87,ESA=87,
   CHARACTER TABULATION SET=88,HORIZONTAL TABULATION SET=88,HTS=88,
   CHARACTER TABULATION WITH JUSTIFICATION=89,HORIZONTAL TABULATION WITH JUSTIFICATION=89,HTJ=89,
   LINE TABULATION SET=8a,VERTICAL TABULATION SET=8a,VTS=8a,PARTIAL LINE FORWARD=8b,
   PARTIAL LINE DOWN=8b,PLD=8b,PARTIAL LINE BACKWARD=8c,PARTIAL LINE UP=8c,PLU=8c,
   REVERSE LINE FEED=8d,REVERSE INDEX=8d,RI=8d,SINGLE SHIFT TWO=8e,SINGLE-SHIFT-2=8e,SS2=8e,
   SINGLE SHIFT THREE=8f,SINGLE-SHIFT-3=8f,SS3=8f,DEVICE CONTROL STRING=90,DCS=90,
   PRIVATE USE ONE=91,PRIVATE USE-1=91,PU1=91,PRIVATE USE TWO=92,PRIVATE USE-2=92,PU2=92,
   SET TRANSMIT STATE=93,STS=93,CANCEL CHARACTER=94,CCH=94,MESSAGE WAITING=95,MW=95,
   START OF GUARDED AREA=96,START OF PROTECTED AREA=96,SPA=96,END OF GUARDED AREA=97,
   END OF PROTECTED AREA=97,EPA=97,START OF STRING=98,SOS=98,
   SINGLE GRAPHIC CHARACTER INTRODUCER=99,SGC=99,SINGLE CHARACTER INTRODUCER=9a,SCI=9a,
   CONTROL SEQUENCE INTRODUCER=9b,CSI=9b,STRING TERMINATOR=9c,ST=9c,OPERATING SYSTEM COMMAND=9d,
   OSC=9d,PRIVACY MESSAGE=9e,PM=9e,APPLICATION PROGRAM COMMAND=9f,APC=9f,NBSP=a0,SHY=ad,
   LATIN CAPITAL LETTER GHA=1a2,LATIN SMALL LETTER GHA=1a3,CGJ=34f,ALM=61c,
   SYRIAC SUBLINEAR COLON SKEWED LEFT=709,KANNADA LETTER LLLA=cde,LAO LETTER FO FON=e9d,
   LAO LETTER FO FAY=e9f,LAO LETTER RO=ea3,LAO LETTER LO=ea5,
   TIBETAN MARK BKA- SHOG GI MGO RGYAN=fd0,HANGUL JONGSEONG YESIEUNG-KIYEOK=11ec,
   HANGUL JONGSEONG YESIEUNG-SSANGKIYEOK=11ed,HANGUL JONGSEONG SSANGYESIEUNG=11ee,
   HANGUL JONGSEONG YESIEUNG-KHIEUKH=11ef,FVS1=180b,FVS2=180c,FVS3=180d,MVS=180e,FVS4=180f,
   ZWSP=200b,ZWNJ=200c,ZWJ=200d,LRM=200e,RLM=200f,LRE=202a,RLE=202b,PDF=202c,LRO=202d,RLO=202e,
   NNBSP=202f,MMSP=205f,WJ=2060,LRI=2066,RLI=2067,FSI=2068,PDI=2069,
   WEIERSTRASS ELLIPTIC FUNCTION=2118,MICR ON US SYMBOL=2448,MICR DASH SYMBOL=2449,
   LEFTWARDS TRIANGLE-HEADED ARROW WITH DOUBLE VERTICAL STROKE=2b7a,
   RIGHTWARDS TRIANGLE-HEADED ARROW WITH DOUBLE VERTICAL STROKE=2b7c,
   YI SYLLABLE ITERATION MARK=a015,MYANMAR LETTER KHAMTI LLA=aa6e,VS1=fe00,VS2=fe01,VS3=fe02,
   VS4=fe03,VS5=fe04,VS6=fe05,VS7=fe06,VS8=fe07,VS9=fe08,VS10=fe09,VS11=fe0a,VS12=fe0b,VS13=fe0c,
   VS14=fe0d,VS15=fe0e,VS16=fe0f,
   PRESENTATION FORM FOR VERTICAL RIGHT WHITE LENTICULAR BRACKET=fe18,BYTE ORDER MARK=feff,
   BOM=feff,ZWNBSP=feff,CUNEIFORM SIGN NU11 TENU=122d4,
   CUNEIFORM SIGN NU11 OVER NU11 BUR OVER BUR=122d5,MEDEFAIDRIN CAPITAL LETTER H=16e56,
   MEDEFAIDRIN CAPITAL LETTER NG=16e57,MEDEFAIDRIN SMALL LETTER H=16e76,
   MEDEFAIDRIN SMALL LETTER NG=16e77,HENTAIGANA LETTER E-1=1b001,
   BYZANTINE MUSICAL SYMBOL FTHORA SKLIRON CHROMA VASIS=1d0c5,VS17=e0100,VS18=e0101,VS19=e0102,
   VS20=e0103,VS21=e0104,VS22=e0105,VS23=e0106,VS24=e0107,VS25=e0108,VS26=e0109,VS27=e010a,
   VS28=e010b,VS29=e010c,VS30=e010d,VS31=e010e,VS32=e010f,VS33=e0110,VS34=e0111,VS35=e0112,
   VS36=e0113,VS37=e0114,VS38=e0115,VS39=e0116,VS40=e0117,VS41=e0118,VS42=e0119,VS43=e011a,
   VS44=e011b,VS45=e011c,VS46=e011d,VS47=e011e,VS48=e011f,VS49=e0120,VS50=e0121,VS51=e0122,
   VS52=e0123,VS53=e0124,VS54=e0125,VS55=e0126,VS56=e0127,VS57=e0128,VS58=e0129,VS59=e012a,
   VS60=e012b,VS61=e012c,VS62=e012d,VS63=e012e,VS64=e012f,VS65=e0130,VS66=e0131,VS67=e0132,
   VS68=e0133,VS69=e0134,VS70=e0135,VS71=e0136,VS72=e0137,VS73=e0138,VS74=e0139,VS75=e013a,
   VS76=e013b,VS77=e013c,VS78=e013d,VS79=e013e,VS80=e013f,VS81=e0140,VS82=e0141,VS83=e0142,
   VS84=e0143,VS85=e0144,VS86=e0145,VS87=e0146,VS88=e0147,VS89=e0148,VS90=e0149,VS91=e014a,
   VS92=e014b,VS93=e014c,VS94=e014d,VS95=e014e,VS96=e014f,VS97=e0150,VS98=e0151,VS99=e0152,
   VS100=e0153,VS101=e0154,VS102=e0155,VS103=e0156,VS104=e0157,VS105=e0158,VS106=e0159,
   VS107=e015a,VS108=e015b,VS109=e015c,VS110=e015d,VS111=e015e,VS112=e015f,VS113=e0160,
   VS114=e0161,VS115=e0162,VS116=e0163,VS117=e0164,VS118=e0165,VS119=e0166,VS120=e0167,
   VS121=e0168,VS122=e0169,VS123=e016a,VS124=e016b,VS125=e016c,VS126=e016d,VS127=e016e,
   VS128=e016f,VS129=e0170,VS130=e0171,VS131=e0172,VS132=e0173,VS133=e0174,VS134=e0175,
   VS135=e0176,VS136=e0177,VS137=e0178,VS138=e0179,VS139=e017a,VS140=e017b,VS141=e017c,
   VS142=e017d,VS143=e017e,VS144=e017f,VS145=e0180,VS146=e0181,VS147=e0182,VS148=e0183,
   VS149=e0184,VS150=e0185,VS151=e0186,VS152=e0187,VS153=e0188,VS154=e0189,VS155=e018a,
   VS156=e018b,VS157=e018c,VS158=e018d,VS159=e018e,VS160=e018f,VS161=e0190,VS162=e0191,
   VS163=e0192,VS164=e0193,VS165=e0194,VS166=e0195,VS167=e0196,VS168=e0197,VS169=e0198,
   VS170=e0199,VS171=e019a,VS172=e019b,VS173=e019c,VS174=e019d,VS175=e019e,VS176=e019f,
   VS177=e01a0,VS178=e01a1,VS179=e01a2,VS180=e01a3,VS181=e01a4,VS182=e01a5,VS183=e01a6,
   VS184=e01a7,VS185=e01a8,VS186=e01a9,VS187=e01aa,VS188=e01ab,VS189=e01ac,VS190=e01ad,
   VS191=e01ae,VS192=e01af,VS193=e01b0,VS194=e01b1,VS195=e01b2,VS196=e01b3,VS197=e01b4,
   VS198=e01b5,VS199=e01b6,VS200=e01b7,VS201=e01b8,VS202=e01b9,VS203=e01ba,VS204=e01bb,
   VS205=e01bc,VS206=e01bd,VS207=e01be,VS208=e01bf,VS209=e01c0,VS210=e01c1,VS211=e01c2,
   VS212=e01c3,VS213=e01c4,VS214=e01c5,VS215=e01c6,VS216=e01c7,VS217=e01c8,VS218=e01c9,
   VS219=e01ca,VS220=e01cb,VS221=e01cc,VS222=e01cd,VS223=e01ce,VS224=e01cf,VS225=e01d0,
   VS226=e01d1,VS227=e01d2,VS228=e01d3,VS229=e01d4,VS230=e01d5,VS231=e01d6,VS232=e01d7,
   VS233=e01d8,VS234=e01d9,VS235=e01da,VS236=e01db,VS237=e01dc,VS238=e01dd,VS239=e01de,
   VS240=e01df,VS241=e01e0,VS242=e01e1,VS243=e01e2,VS244=e01e3,VS245=e01e4,VS246=e01e5,
   VS247=e01e6,VS248=e01e7,VS249=e01e8,VS250=e01e9,VS251=e01ea,VS252=e01eb,VS253=e01ec,
   VS254=e01ed,VS255=e01ee,VS256=e01ef"

end FieldCode.Text
