namespace NoteSchema.Text.CharName

/-- Letters and signs from the Glagolitic to the Meetei Mayek script, those of East Asia among them. -/
def eastAsian : String :=
"2C00 GLAGOLITIC CAPITAL LETTER /AZU/BUKY/VEDE/GLAGOLI/DOBRO/YESTU/ZHIVETE/DZELO/ZEMLJA/IZHE
2C0A GLAGOLITIC CAPITAL LETTER /INITIAL IZHE/I/DJERVI/KAKO/LJUDIJE/MYSLITE/NASHI/ONU/POKOJI/RITSI
2C14 GLAGOLITIC CAPITAL LETTER /SLOVO/TVRIDO/UKU/FRITU/HERU/OTU/PE/SHTA/TSI/CHRIVI/SHA/YERU/YERI
2C21 GLAGOLITIC CAPITAL LETTER /YATI/SPIDERY HA/YU/SMALL YUS/SMALL YUS WITH TAIL/YO
2C27 GLAGOLITIC CAPITAL LETTER /IOTATED SMALL YUS/BIG YUS/IOTATED BIG YUS/FITA/IZHITSA/SHTAPIC
2C2D GLAGOLITIC CAPITAL LETTER /TROKUTASTI A/LATINATE MYSLITE/CAUDATE CHRIVI
2C30 GLAGOLITIC SMALL LETTER /AZU/BUKY/VEDE/GLAGOLI/DOBRO/YESTU/ZHIVETE/DZELO/ZEMLJA/IZHE
2C3A GLAGOLITIC SMALL LETTER /INITIAL IZHE/I/DJERVI/KAKO/LJUDIJE/MYSLITE/NASHI/ONU/POKOJI/RITSI
2C44 GLAGOLITIC SMALL LETTER /SLOVO/TVRIDO/UKU/FRITU/HERU/OTU/PE/SHTA/TSI/CHRIVI/SHA/YERU/YERI/YATI
2C52 GLAGOLITIC SMALL LETTER /SPIDERY HA/YU/SMALL YUS/SMALL YUS WITH TAIL/YO/IOTATED SMALL YUS
2C58 GLAGOLITIC SMALL LETTER /BIG YUS/IOTATED BIG YUS/FITA/IZHITSA/SHTAPIC/TROKUTASTI A
2C5E GLAGOLITIC SMALL LETTER /LATINATE MYSLITE/CAUDATE CHRIVI
2C60 LATIN /CAPITAL LETTER L WITH DOUBLE BAR/SMALL LETTER L WITH DOUBLE BAR
2C62 LATIN CAPITAL LETTER /L WITH MIDDLE TILDE/P WITH STROKE/R WITH TAIL
2C65 LATIN SMALL LETTER /A WITH STROKE/T WITH DIAGONAL STROKE
2C67 LATIN /CAPITAL LETTER H WITH DESCENDER/SMALL LETTER H WITH DESCENDER
2C69 LATIN /CAPITAL LETTER K WITH DESCENDER/SMALL LETTER K WITH DESCENDER
2C6B LATIN /CAPITAL LETTER Z WITH DESCENDER/SMALL LETTER Z WITH DESCENDER
2C6D LATIN CAPITAL LETTER /ALPHA/M WITH HOOK/TURNED A/TURNED ALPHA
2C71 LATIN /SMALL LETTER V WITH RIGHT HOOK/CAPITAL LETTER W WITH HOOK
2C73 LATIN SMALL LETTER /W WITH HOOK/V WITH CURL
2C75 /LATIN CAPITAL LETTER HALF H
2C76 LATIN SMALL LETTER /HALF H/TAILLESS PHI/E WITH NOTCH/TURNED R WITH TAIL/O WITH LOW RING INSIDE
2C7B LATIN /LETTER SMALL CAPITAL TURNED E/SUBSCRIPT SMALL LETTER J
2C7D /MODIFIER LETTER CAPITAL V
2C7E LATIN CAPITAL LETTER /S WITH SWASH TAIL/Z WITH SWASH TAIL
2C80 COPTIC /CAPITAL LETTER ALFA/SMALL LETTER ALFA/CAPITAL LETTER VIDA/SMALL LETTER VIDA
2C84 COPTIC /CAPITAL LETTER GAMMA/SMALL LETTER GAMMA/CAPITAL LETTER DALDA/SMALL LETTER DALDA
2C88 COPTIC /CAPITAL LETTER EIE/SMALL LETTER EIE/CAPITAL LETTER SOU/SMALL LETTER SOU
2C8C COPTIC /CAPITAL LETTER ZATA/SMALL LETTER ZATA/CAPITAL LETTER HATE/SMALL LETTER HATE
2C90 COPTIC /CAPITAL LETTER THETHE/SMALL LETTER THETHE/CAPITAL LETTER IAUDA/SMALL LETTER IAUDA
2C94 COPTIC /CAPITAL LETTER KAPA/SMALL LETTER KAPA/CAPITAL LETTER LAULA/SMALL LETTER LAULA
2C98 COPTIC /CAPITAL LETTER MI/SMALL LETTER MI/CAPITAL LETTER NI/SMALL LETTER NI/CAPITAL LETTER KSI
2C9D COPTIC /SMALL LETTER KSI/CAPITAL LETTER O/SMALL LETTER O/CAPITAL LETTER PI/SMALL LETTER PI
2CA2 COPTIC /CAPITAL LETTER RO/SMALL LETTER RO/CAPITAL LETTER SIMA/SMALL LETTER SIMA
2CA6 COPTIC /CAPITAL LETTER TAU/SMALL LETTER TAU/CAPITAL LETTER UA/SMALL LETTER UA
2CAA COPTIC /CAPITAL LETTER FI/SMALL LETTER FI/CAPITAL LETTER KHI/SMALL LETTER KHI
2CAE COPTIC /CAPITAL LETTER PSI/SMALL LETTER PSI/CAPITAL LETTER OOU/SMALL LETTER OOU
2CB2 COPTIC /CAPITAL LETTER DIALECT-P ALEF/SMALL LETTER DIALECT-P ALEF
2CB4 COPTIC /CAPITAL LETTER OLD COPTIC AIN/SMALL LETTER OLD COPTIC AIN
2CB6 COPTIC /CAPITAL LETTER CRYPTOGRAMMIC EIE/SMALL LETTER CRYPTOGRAMMIC EIE
2CB8 COPTIC /CAPITAL LETTER DIALECT-P KAPA/SMALL LETTER DIALECT-P KAPA/CAPITAL LETTER DIALECT-P NI
2CBB COPTIC /SMALL LETTER DIALECT-P NI/CAPITAL LETTER CRYPTOGRAMMIC NI
2CBD COPTIC /SMALL LETTER CRYPTOGRAMMIC NI/CAPITAL LETTER OLD COPTIC OOU
2CBF COPTIC /SMALL LETTER OLD COPTIC OOU/CAPITAL LETTER SAMPI/SMALL LETTER SAMPI
2CC2 COPTIC /CAPITAL LETTER CROSSED SHEI/SMALL LETTER CROSSED SHEI/CAPITAL LETTER OLD COPTIC SHEI
2CC5 COPTIC /SMALL LETTER OLD COPTIC SHEI/CAPITAL LETTER OLD COPTIC ESH/SMALL LETTER OLD COPTIC ESH
2CC8 COPTIC /CAPITAL LETTER AKHMIMIC KHEI/SMALL LETTER AKHMIMIC KHEI/CAPITAL LETTER DIALECT-P HORI
2CCB COPTIC /SMALL LETTER DIALECT-P HORI/CAPITAL LETTER OLD COPTIC HORI
2CCD COPTIC /SMALL LETTER OLD COPTIC HORI/CAPITAL LETTER OLD COPTIC HA/SMALL LETTER OLD COPTIC HA
2CD0 COPTIC /CAPITAL LETTER L-SHAPED HA/SMALL LETTER L-SHAPED HA/CAPITAL LETTER OLD COPTIC HEI
2CD3 COPTIC /SMALL LETTER OLD COPTIC HEI/CAPITAL LETTER OLD COPTIC HAT/SMALL LETTER OLD COPTIC HAT
2CD6 COPTIC /CAPITAL LETTER OLD COPTIC GANGIA/SMALL LETTER OLD COPTIC GANGIA
2CD8 COPTIC /CAPITAL LETTER OLD COPTIC DJA/SMALL LETTER OLD COPTIC DJA
2CDA COPTIC /CAPITAL LETTER OLD COPTIC SHIMA/SMALL LETTER OLD COPTIC SHIMA
2CDC COPTIC /CAPITAL LETTER OLD NUBIAN SHIMA/SMALL LETTER OLD NUBIAN SHIMA
2CDE COPTIC /CAPITAL LETTER OLD NUBIAN NGI/SMALL LETTER OLD NUBIAN NGI
2CE0 COPTIC /CAPITAL LETTER OLD NUBIAN NYI/SMALL LETTER OLD NUBIAN NYI
2CE2 COPTIC /CAPITAL LETTER OLD NUBIAN WAU/SMALL LETTER OLD NUBIAN WAU
2CE4 COPTIC SYMBOL /KAI/MI RO/PI RO/STAUROS/TAU RO/KHI RO/SHIMA SIMA
2CEB COPTIC /CAPITAL LETTER CRYPTOGRAMMIC SHEI/SMALL LETTER CRYPTOGRAMMIC SHEI
2CED COPTIC /CAPITAL LETTER CRYPTOGRAMMIC GANGIA/SMALL LETTER CRYPTOGRAMMIC GANGIA
2CEF COPTIC COMBINING /NI ABOVE/SPIRITUS ASPER/SPIRITUS LENIS
2CF2 COPTIC /CAPITAL LETTER BOHAIRIC KHEI/SMALL LETTER BOHAIRIC KHEI
2CF9 COPTIC OLD NUBIAN /FULL STOP/DIRECT QUESTION MARK/INDIRECT QUESTION MARK/VERSE DIVIDER
2CFD COPTIC /FRACTION ONE HALF/FULL STOP/MORPHOLOGICAL DIVIDER
2D00 GEORGIAN SMALL LETTER /AN/BAN/GAN/DON/EN/VIN/ZEN/TAN/IN/KAN/LAS/MAN/NAR/ON/PAR/ZHAR/RAE/SAN
2D12 GEORGIAN SMALL LETTER /TAR/UN/PHAR/KHAR/GHAN/QAR/SHIN/CHIN/CAN/JIL/CIL/CHAR/XAN/JHAN/HAE/HE
2D22 GEORGIAN SMALL LETTER /HIE/WE/HAR/HOE
2D27 /GEORGIAN SMALL LETTER YN
2D2D /GEORGIAN SMALL LETTER AEN
2D30 TIFINAGH LETTER /YA/YAB/YABH/YAG/YAGHH/BERBER ACADEMY YAJ/YAJ/YAD/YADH/YADD/YADDH/YEY/YAF/YAK
2D3E TIFINAGH LETTER /TUAREG YAK/YAKHH/YAH/BERBER ACADEMY YAH/TUAREG YAH/YAHH/YAA/YAKH/TUAREG YAKH
2D47 TIFINAGH LETTER /YAQ/TUAREG YAQ/YI/YAZH/AHAGGAR YAZH/TUAREG YAZH/YAL/YAM/YAN/TUAREG YAGN
2D51 TIFINAGH LETTER /TUAREG YANG/YAP/YU/YAR/YARR/YAGH/TUAREG YAGH/AYER YAGH/YAS/YASS/YASH/YAT/YATH
2D5E TIFINAGH LETTER /YACH/YATT/YAV/YAW/YAY/YAZ/TAWELLEMET YAZ/YAZZ/YE/YO
2D6F TIFINAGH /MODIFIER LETTER LABIALIZATION MARK/SEPARATOR MARK
2D7F /TIFINAGH CONSONANT JOINER
2D80 ETHIOPIC SYLLABLE /LOA/MOA/ROA/SOA/SHOA/BOA/TOA/COA/NOA/NYOA/GLOTTAL OA/ZOA/DOA/DDOA/JOA/THOA
2D90 ETHIOPIC SYLLABLE /CHOA/PHOA/POA/GGWA/GGWI/GGWEE/GGWE
2DA0 ETHIOPIC SYLLABLE /SSA/SSU/SSI/SSAA/SSEE/SSE/SSO
2DA8 ETHIOPIC SYLLABLE /CCA/CCU/CCI/CCAA/CCEE/CCE/CCO
2DB0 ETHIOPIC SYLLABLE /ZZA/ZZU/ZZI/ZZAA/ZZEE/ZZE/ZZO
2DB8 ETHIOPIC SYLLABLE /CCHA/CCHU/CCHI/CCHAA/CCHEE/CCHE/CCHO
2DC0 ETHIOPIC SYLLABLE /QYA/QYU/QYI/QYAA/QYEE/QYE/QYO
2DC8 ETHIOPIC SYLLABLE /KYA/KYU/KYI/KYAA/KYEE/KYE/KYO
2DD0 ETHIOPIC SYLLABLE /XYA/XYU/XYI/XYAA/XYEE/XYE/XYO
2DD8 ETHIOPIC SYLLABLE /GYA/GYU/GYI/GYAA/GYEE/GYE/GYO
2DE0 COMBINING CYRILLIC LETTER /BE/VE/GHE/DE/ZHE/ZE/KA/EL/EM/EN/O/PE/ER/ES/TE/HA/TSE/CHE/SHA/SHCHA
2DF4 COMBINING CYRILLIC LETTER /FITA/ES-TE/A/IE/DJERV/MONOGRAPH UK/YAT/YU/IOTIFIED A/LITTLE YUS
2DFE COMBINING CYRILLIC LETTER /BIG YUS/IOTIFIED BIG YUS
2E00 RIGHT ANGLE /SUBSTITUTION MARKER/DOTTED SUBSTITUTION MARKER
2E02 /LEFT SUBSTITUTION BRACKET/RIGHT SUBSTITUTION BRACKET/LEFT DOTTED SUBSTITUTION BRACKET
2E05 /RIGHT DOTTED SUBSTITUTION BRACKET
2E06 RAISED /INTERPOLATION MARKER/DOTTED INTERPOLATION MARKER
2E08 /DOTTED TRANSPOSITION MARKER/LEFT TRANSPOSITION BRACKET/RIGHT TRANSPOSITION BRACKET
2E0B /RAISED SQUARE/LEFT RAISED OMISSION BRACKET/RIGHT RAISED OMISSION BRACKET/EDITORIAL CORONIS
2E0F /PARAGRAPHOS/FORKED PARAGRAPHOS/REVERSED FORKED PARAGRAPHOS/HYPODIASTOLE/DOTTED OBELOS
2E14 /DOWNWARDS ANCORA/UPWARDS ANCORA/DOTTED RIGHT-POINTING ANGLE/DOUBLE OBLIQUE HYPHEN
2E18 /INVERTED INTERROBANG/PALM BRANCH/HYPHEN WITH DIAERESIS/TILDE WITH RING ABOVE
2E1C /LEFT LOW PARAPHRASE BRACKET/RIGHT LOW PARAPHRASE BRACKET
2E1E TILDE WITH DOT /ABOVE/BELOW
2E20 /LEFT VERTICAL BAR WITH QUILL/RIGHT VERTICAL BAR WITH QUILL
2E22 TOP /LEFT HALF BRACKET/RIGHT HALF BRACKET
2E24 BOTTOM /LEFT HALF BRACKET/RIGHT HALF BRACKET
2E26 /LEFT SIDEWAYS U BRACKET/RIGHT SIDEWAYS U BRACKET/LEFT DOUBLE PARENTHESIS
2E29 /RIGHT DOUBLE PARENTHESIS/TWO DOTS OVER ONE DOT PUNCTUATION/ONE DOT OVER TWO DOTS PUNCTUATION
2E2C /SQUARED FOUR DOT PUNCTUATION/FIVE DOT MARK/REVERSED QUESTION MARK/VERTICAL TILDE/RING POINT
2E31 /WORD SEPARATOR MIDDLE DOT/TURNED COMMA/RAISED DOT/RAISED COMMA/TURNED SEMICOLON
2E36 DAGGER WITH /LEFT GUARD/RIGHT GUARD
2E38 /TURNED DAGGER/TOP HALF SECTION SIGN/TWO-EM DASH/THREE-EM DASH/STENOGRAPHIC FULL STOP
2E3D /VERTICAL SIX DOTS/WIGGLY VERTICAL LINE/CAPITULUM/DOUBLE HYPHEN/REVERSED COMMA
2E42 /DOUBLE LOW-REVERSED-9 QUOTATION MARK/DASH WITH LEFT UPTURN/DOUBLE SUSPENSION MARK
2E45 INVERTED LOW /KAVYKA/KAVYKA WITH KAVYKA ABOVE
2E47 /LOW KAVYKA/LOW KAVYKA WITH DOT/DOUBLE STACKED COMMA/DOTTED SOLIDUS/TRIPLE DAGGER
2E4C /MEDIEVAL COMMA/PARAGRAPHUS MARK/PUNCTUS ELEVATUS MARK/CORNISH VERSE DIVIDER
2E50 CROSS PATTY WITH /RIGHT CROSSBAR/LEFT CROSSBAR
2E52 /TIRONIAN SIGN CAPITAL ET
2E53 MEDIEVAL /EXCLAMATION MARK/QUESTION MARK
2E55 /LEFT SQUARE BRACKET WITH STROKE/RIGHT SQUARE BRACKET WITH STROKE
2E57 /LEFT SQUARE BRACKET WITH DOUBLE STROKE/RIGHT SQUARE BRACKET WITH DOUBLE STROKE
2E59 TOP HALF /LEFT PARENTHESIS/RIGHT PARENTHESIS
2E5B BOTTOM HALF /LEFT PARENTHESIS/RIGHT PARENTHESIS
2E5D /OBLIQUE HYPHEN
2E80 CJK RADICAL /REPEAT/CLIFF/SECOND ONE/SECOND TWO/SECOND THREE/PERSON/BOX/TABLE/KNIFE ONE
2E89 CJK RADICAL /KNIFE TWO/DIVINATION/SEAL/SMALL ONE/SMALL TWO/LAME ONE/LAME TWO/LAME THREE
2E91 CJK RADICAL /LAME FOUR/SNAKE/THREAD/SNOUT ONE/SNOUT TWO/HEART ONE/HEART TWO/HAND/RAP
2E9B CJK RADICAL /CHOKE/SUN/MOON/DEATH/MOTHER/CIVILIAN/WATER ONE/WATER TWO/FIRE/PAW ONE/PAW TWO
2EA6 CJK RADICAL /SIMPLIFIED HALF TREE TRUNK/COW/DOG/JADE/BOLT OF CLOTH/EYE/SPIRIT ONE/SPIRIT TWO
2EAE CJK RADICAL /BAMBOO/SILK/C-SIMPLIFIED SILK/NET ONE/NET TWO/NET THREE/NET FOUR/MESH/SHEEP/RAM
2EB8 CJK RADICAL /EWE/OLD/BRUSH ONE/BRUSH TWO/MEAT/MORTAR/GRASS ONE/GRASS TWO/GRASS THREE/TIGER
2EC2 CJK RADICAL /CLOTHES/WEST ONE/WEST TWO/C-SIMPLIFIED SEE/SIMPLIFIED HORN/HORN
2EC8 CJK RADICAL /C-SIMPLIFIED SPEECH/C-SIMPLIFIED SHELL/FOOT/C-SIMPLIFIED CART/SIMPLIFIED WALK
2ECD CJK RADICAL /WALK ONE/WALK TWO/CITY/C-SIMPLIFIED GOLD/LONG ONE/LONG TWO/C-SIMPLIFIED LONG
2ED4 CJK RADICAL /C-SIMPLIFIED GATE/MOUND ONE/MOUND TWO/RAIN/BLUE
2ED9 CJK RADICAL C-SIMPLIFIED /TANNED LEATHER/LEAF/WIND/FLY
2EDD CJK RADICAL /EAT ONE/EAT TWO/EAT THREE/C-SIMPLIFIED EAT/HEAD/C-SIMPLIFIED HORSE/BONE/GHOST
2EE5 CJK RADICAL C-SIMPLIFIED /FISH/BIRD/SALT
2EE8 CJK RADICAL /SIMPLIFIED WHEAT/SIMPLIFIED YELLOW/C-SIMPLIFIED FROG/J-SIMPLIFIED EVEN
2EEC CJK RADICAL /C-SIMPLIFIED EVEN/J-SIMPLIFIED TOOTH/C-SIMPLIFIED TOOTH/J-SIMPLIFIED DRAGON
2EF0 CJK RADICAL /C-SIMPLIFIED DRAGON/TURTLE/J-SIMPLIFIED TURTLE/C-SIMPLIFIED TURTLE
2F00 KANGXI RADICAL /ONE/LINE/DOT/SLASH/SECOND/HOOK/TWO/LID/MAN/LEGS/ENTER/EIGHT/DOWN BOX/COVER/ICE
2F0F KANGXI RADICAL /TABLE/OPEN BOX/KNIFE/POWER/WRAP/SPOON/RIGHT OPEN BOX/HIDING ENCLOSURE/TEN
2F18 KANGXI RADICAL /DIVINATION/SEAL/CLIFF/PRIVATE/AGAIN/MOUTH/ENCLOSURE/EARTH/SCHOLAR/GO/GO SLOWLY
2F23 KANGXI RADICAL /EVENING/BIG/WOMAN/CHILD/ROOF/INCH/SMALL/LAME/CORPSE/SPROUT/MOUNTAIN/RIVER/WORK
2F30 KANGXI RADICAL /ONESELF/TURBAN/DRY/SHORT THREAD/DOTTED CLIFF/LONG STRIDE/TWO HANDS/SHOOT/BOW
2F39 KANGXI RADICAL /SNOUT/BRISTLE/STEP/HEART/HALBERD/DOOR/HAND/BRANCH/RAP/SCRIPT/DIPPER/AXE/SQUARE
2F46 KANGXI RADICAL /NOT/SUN/SAY/MOON/TREE/LACK/STOP/DEATH/WEAPON/DO NOT/COMPARE/FUR/CLAN/STEAM
2F54 KANGXI RADICAL /WATER/FIRE/CLAW/FATHER/DOUBLE X/HALF TREE TRUNK/SLICE/FANG/COW/DOG/PROFOUND
2F5F KANGXI RADICAL /JADE/MELON/TILE/SWEET/LIFE/USE/FIELD/BOLT OF CLOTH/SICKNESS/DOTTED TENT/WHITE
2F6A KANGXI RADICAL /SKIN/DISH/EYE/SPEAR/ARROW/STONE/SPIRIT/TRACK/GRAIN/CAVE/STAND/BAMBOO/RICE/SILK
2F78 KANGXI RADICAL /JAR/NET/SHEEP/FEATHER/OLD/AND/PLOW/EAR/BRUSH/MEAT/MINISTER/SELF/ARRIVE/MORTAR
2F86 KANGXI RADICAL /TONGUE/OPPOSE/BOAT/STOPPING/COLOR/GRASS/TIGER/INSECT/BLOOD/WALK ENCLOSURE
2F90 KANGXI RADICAL /CLOTHES/WEST/SEE/HORN/SPEECH/VALLEY/BEAN/PIG/BADGER/SHELL/RED/RUN/FOOT/BODY
2F9E KANGXI RADICAL /CART/BITTER/MORNING/WALK/CITY/WINE/DISTINGUISH/VILLAGE/GOLD/LONG/GATE/MOUND
2FAA KANGXI RADICAL /SLAVE/SHORT TAILED BIRD/RAIN/BLUE/WRONG/FACE/LEATHER/TANNED LEATHER/LEEK/SOUND
2FB4 KANGXI RADICAL /LEAF/WIND/FLY/EAT/HEAD/FRAGRANT/HORSE/BONE/TALL/HAIR/FIGHT/SACRIFICIAL WINE
2FC0 KANGXI RADICAL /CAULDRON/GHOST/FISH/BIRD/SALT/DEER/WHEAT/HEMP/YELLOW/MILLET/BLACK/EMBROIDERY
2FCC KANGXI RADICAL /FROG/TRIPOD/DRUM/RAT/NOSE/EVEN/TOOTH/DRAGON/TURTLE/FLUTE
2FF0 IDEOGRAPHIC DESCRIPTION CHARACTER /LEFT TO RIGHT/ABOVE TO BELOW/LEFT TO MIDDLE AND RIGHT
2FF3 IDEOGRAPHIC DESCRIPTION CHARACTER /ABOVE TO MIDDLE AND BELOW/FULL SURROUND/SURROUND FROM ABOVE
2FF6 IDEOGRAPHIC DESCRIPTION CHARACTER SURROUND FROM /BELOW/LEFT/UPPER LEFT/UPPER RIGHT/LOWER LEFT
2FFB /IDEOGRAPHIC DESCRIPTION CHARACTER OVERLAID
3000 IDEOGRAPHIC /SPACE/COMMA/FULL STOP
3003 /DITTO MARK/JAPANESE INDUSTRIAL STANDARD SYMBOL
3005 IDEOGRAPHIC /ITERATION MARK/CLOSING MARK/NUMBER ZERO
3008 /LEFT ANGLE BRACKET/RIGHT ANGLE BRACKET/LEFT DOUBLE ANGLE BRACKET/RIGHT DOUBLE ANGLE BRACKET
300C /LEFT CORNER BRACKET/RIGHT CORNER BRACKET/LEFT WHITE CORNER BRACKET/RIGHT WHITE CORNER BRACKET
3010 /LEFT BLACK LENTICULAR BRACKET/RIGHT BLACK LENTICULAR BRACKET/POSTAL MARK/GETA MARK
3014 /LEFT TORTOISE SHELL BRACKET/RIGHT TORTOISE SHELL BRACKET/LEFT WHITE LENTICULAR BRACKET
3017 /RIGHT WHITE LENTICULAR BRACKET/LEFT WHITE TORTOISE SHELL BRACKET
3019 /RIGHT WHITE TORTOISE SHELL BRACKET/LEFT WHITE SQUARE BRACKET/RIGHT WHITE SQUARE BRACKET
301C /WAVE DASH/REVERSED DOUBLE PRIME QUOTATION MARK/DOUBLE PRIME QUOTATION MARK
301F /LOW DOUBLE PRIME QUOTATION MARK/POSTAL MARK FACE
3021 HANGZHOU NUMERAL /ONE/TWO/THREE/FOUR/FIVE/SIX/SEVEN/EIGHT/NINE
302A IDEOGRAPHIC /LEVEL TONE MARK/RISING TONE MARK/DEPARTING TONE MARK/ENTERING TONE MARK
302E HANGUL /SINGLE DOT TONE MARK/DOUBLE DOT TONE MARK
3030 /WAVY DASH
3031 VERTICAL KANA REPEAT /MARK/WITH VOICED SOUND MARK/MARK UPPER HALF
3034 VERTICAL KANA REPEAT /WITH VOICED SOUND MARK UPPER HALF/MARK LOWER HALF
3036 /CIRCLED POSTAL MARK/IDEOGRAPHIC TELEGRAPH LINE FEED SEPARATOR SYMBOL
3038 HANGZHOU NUMERAL /TEN/TWENTY/THIRTY
303B /VERTICAL IDEOGRAPHIC ITERATION MARK/MASU MARK/PART ALTERNATION MARK
303E IDEOGRAPHIC /VARIATION INDICATOR/HALF FILL SPACE
3041 HIRAGANA LETTER /SMALL A/A/SMALL I/I/SMALL U/U/SMALL E/E/SMALL O/O/KA/GA/KI/GI/KU/GU/KE/GE/KO
3054 HIRAGANA LETTER /GO/SA/ZA/SI/ZI/SU/ZU/SE/ZE/SO/ZO/TA/DA/TI/DI/SMALL TU/TU/DU/TE/DE/TO/DO/NA/NI
306C HIRAGANA LETTER /NU/NE/NO/HA/BA/PA/HI/BI/PI/HU/BU/PU/HE/BE/PE/HO/BO/PO/MA/MI/MU/ME/MO/SMALL YA
3084 HIRAGANA LETTER /YA/SMALL YU/YU/SMALL YO/YO/RA/RI/RU/RE/RO/SMALL WA/WA/WI/WE/WO/N/VU
3095 HIRAGANA LETTER SMALL /KA/KE
3099 COMBINING KATAKANA-HIRAGANA /VOICED SOUND MARK/SEMI-VOICED SOUND MARK
309B KATAKANA-HIRAGANA /VOICED SOUND MARK/SEMI-VOICED SOUND MARK
309D HIRAGANA /ITERATION MARK/VOICED ITERATION MARK/DIGRAPH YORI
30A0 /KATAKANA-HIRAGANA DOUBLE HYPHEN
30A1 KATAKANA LETTER /SMALL A/A/SMALL I/I/SMALL U/U/SMALL E/E/SMALL O/O/KA/GA/KI/GI/KU/GU/KE/GE/KO
30B4 KATAKANA LETTER /GO/SA/ZA/SI/ZI/SU/ZU/SE/ZE/SO/ZO/TA/DA/TI/DI/SMALL TU/TU/DU/TE/DE/TO/DO/NA/NI
30CC KATAKANA LETTER /NU/NE/NO/HA/BA/PA/HI/BI/PI/HU/BU/PU/HE/BE/PE/HO/BO/PO/MA/MI/MU/ME/MO/SMALL YA
30E4 KATAKANA LETTER /YA/SMALL YU/YU/SMALL YO/YO/RA/RI/RU/RE/RO/SMALL WA/WA/WI/WE/WO/N/VU/SMALL KA
30F6 KATAKANA LETTER /SMALL KE/VA/VI/VE/VO
30FB /KATAKANA MIDDLE DOT/KATAKANA-HIRAGANA PROLONGED SOUND MARK
30FD KATAKANA /ITERATION MARK/VOICED ITERATION MARK/DIGRAPH KOTO
3105 BOPOMOFO LETTER /B/P/M/F/D/T/N/L/G/K/H/J/Q/X/ZH/CH/SH/R/Z/C/S/A/O/E/EH/AI/EI/AU/OU/AN/EN/ANG
3125 BOPOMOFO LETTER /ENG/ER/I/U/IU/V/NG/GN/IH/O WITH DOT ABOVE/NN
3131 HANGUL LETTER /KIYEOK/SSANGKIYEOK/KIYEOK-SIOS/NIEUN/NIEUN-CIEUC/NIEUN-HIEUH/TIKEUT/SSANGTIKEUT
3139 /HANGUL LETTER RIEUL
313A HANGUL LETTER RIEUL-/KIYEOK/MIEUM/PIEUP/SIOS/THIEUTH/PHIEUPH/HIEUH
3141 HANGUL LETTER /MIEUM/PIEUP/SSANGPIEUP/PIEUP-SIOS/SIOS/SSANGSIOS/IEUNG/CIEUC/SSANGCIEUC/CHIEUCH
314B HANGUL LETTER /KHIEUKH/THIEUTH/PHIEUPH/HIEUH/A/AE/YA/YAE/EO/E/YEO/YE/O/WA/WAE/OE/YO/U/WEO/WE
315F HANGUL LETTER /WI/YU/EU/YI/I
3164 HANGUL /FILLER/LETTER SSANGNIEUN
3166 HANGUL LETTER NIEUN-/TIKEUT/SIOS/PANSIOS
3169 HANGUL LETTER RIEUL-/KIYEOK-SIOS/TIKEUT/PIEUP-SIOS/PANSIOS/YEORINHIEUH
316E HANGUL LETTER /MIEUM-PIEUP/MIEUM-SIOS/MIEUM-PANSIOS/KAPYEOUNMIEUM
3172 HANGUL LETTER PIEUP-/KIYEOK/TIKEUT/SIOS-KIYEOK/SIOS-TIKEUT/CIEUC/THIEUTH
3178 HANGUL LETTER /KAPYEOUNPIEUP/KAPYEOUNSSANGPIEUP
317A HANGUL LETTER SIOS-/KIYEOK/NIEUN/TIKEUT/PIEUP/CIEUC
317F HANGUL LETTER /PANSIOS/SSANGIEUNG/YESIEUNG/YESIEUNG-SIOS/YESIEUNG-PANSIOS/KAPYEOUNPHIEUPH
3185 HANGUL LETTER /SSANGHIEUH/YEORINHIEUH/YO-YA/YO-YAE/YO-I/YU-YEO/YU-YE/YU-I/ARAEA/ARAEAE
3190 IDEOGRAPHIC ANNOTATION /LINKING MARK/REVERSE MARK/ONE MARK/TWO MARK/THREE MARK/FOUR MARK
3196 IDEOGRAPHIC ANNOTATION /TOP MARK/MIDDLE MARK/BOTTOM MARK/FIRST MARK/SECOND MARK/THIRD MARK
319C IDEOGRAPHIC ANNOTATION /FOURTH MARK/HEAVEN MARK/EARTH MARK/MAN MARK
31A0 BOPOMOFO LETTER /BU/ZI/JI/GU/EE/ENN/OO/ONN/IR/ANN/INN/UNN/IM/NGG/AINN/AUNN/AM/OM/ONG/INNN
31B4 BOPOMOFO FINAL LETTER /P/T/K/H
31B8 BOPOMOFO /LETTER GH/LETTER LH/LETTER ZY/FINAL LETTER G
31BC BOPOMOFO LETTER /GW/KW/OE/AH
31C0 CJK STROKE /T/WG/XG/BXG/SW/HZZ/HZG/HP/HZWG/SZWG/HZT/HZZP/HPWG/HZW/HZZZ/N/H/S/P/SP/D/HZ/HG/SZ
31D8 CJK STROKE /SWZ/ST/SG/PD/PZ/TN/SZZ/SWG/HXWG/HZZZG/PG/Q
31F0 KATAKANA LETTER SMALL /KU/SI/SU/TO/NU/HA/HI/HU/HE/HO/MU/RA/RI/RU/RE/RO
3200 PARENTHESIZED HANGUL /KIYEOK/NIEUN/TIKEUT/RIEUL/MIEUM/PIEUP/SIOS/IEUNG/CIEUC/CHIEUCH/KHIEUKH
320B PARENTHESIZED HANGUL /THIEUTH/PHIEUPH/HIEUH/KIYEOK A/NIEUN A/TIKEUT A/RIEUL A/MIEUM A/PIEUP A
3214 PARENTHESIZED HANGUL /SIOS A/IEUNG A/CIEUC A/CHIEUCH A/KHIEUKH A/THIEUTH A/PHIEUPH A/HIEUH A
321C PARENTHESIZED /HANGUL CIEUC U/KOREAN CHARACTER OJEON/KOREAN CHARACTER O HU
3220 PARENTHESIZED IDEOGRAPH /ONE/TWO/THREE/FOUR/FIVE/SIX/SEVEN/EIGHT/NINE/TEN/MOON/FIRE/WATER/WOOD
322E PARENTHESIZED IDEOGRAPH /METAL/EARTH/SUN/STOCK/HAVE/SOCIETY/NAME/SPECIAL/FINANCIAL
3237 PARENTHESIZED IDEOGRAPH /CONGRATULATION/LABOR/REPRESENT/CALL/STUDY/SUPERVISE/ENTERPRISE
323E PARENTHESIZED IDEOGRAPH /RESOURCE/ALLIANCE/FESTIVAL/REST/SELF/REACH
3244 CIRCLED IDEOGRAPH /QUESTION/KINDERGARTEN/SCHOOL/KOTO
3248 CIRCLED NUMBER /TEN ON BLACK SQUARE/TWENTY ON BLACK SQUARE/THIRTY ON BLACK SQUARE
324B CIRCLED NUMBER /FORTY ON BLACK SQUARE/FIFTY ON BLACK SQUARE/SIXTY ON BLACK SQUARE
324E CIRCLED NUMBER /SEVENTY ON BLACK SQUARE/EIGHTY ON BLACK SQUARE
3250 /PARTNERSHIP SIGN
3251 CIRCLED NUMBER TWENTY /ONE/TWO/THREE/FOUR/FIVE/SIX/SEVEN/EIGHT/NINE
325A /CIRCLED NUMBER THIRTY
325B CIRCLED NUMBER THIRTY /ONE/TWO/THREE/FOUR/FIVE
3260 CIRCLED HANGUL /KIYEOK/NIEUN/TIKEUT/RIEUL/MIEUM/PIEUP/SIOS/IEUNG/CIEUC/CHIEUCH/KHIEUKH/THIEUTH
326C CIRCLED HANGUL /PHIEUPH/HIEUH/KIYEOK A/NIEUN A/TIKEUT A/RIEUL A/MIEUM A/PIEUP A/SIOS A/IEUNG A
3276 CIRCLED HANGUL /CIEUC A/CHIEUCH A/KHIEUKH A/THIEUTH A/PHIEUPH A/HIEUH A
327C CIRCLED KOREAN CHARACTER /CHAMKO/JUEUI
327E /CIRCLED HANGUL IEUNG U/KOREAN STANDARD SYMBOL
3280 CIRCLED IDEOGRAPH /ONE/TWO/THREE/FOUR/FIVE/SIX/SEVEN/EIGHT/NINE/TEN/MOON/FIRE/WATER/WOOD/METAL
328F CIRCLED IDEOGRAPH /EARTH/SUN/STOCK/HAVE/SOCIETY/NAME/SPECIAL/FINANCIAL/CONGRATULATION/LABOR
3299 CIRCLED IDEOGRAPH /SECRET/MALE/FEMALE/SUITABLE/EXCELLENT/PRINT/ATTENTION/ITEM/REST/COPY
32A3 CIRCLED IDEOGRAPH /CORRECT/HIGH/CENTRE/LOW/LEFT/RIGHT/MEDICINE/RELIGION/STUDY/SUPERVISE
32AD CIRCLED IDEOGRAPH /ENTERPRISE/RESOURCE/ALLIANCE/NIGHT
32B1 CIRCLED NUMBER THIRTY /SIX/SEVEN/EIGHT/NINE
32B5 /CIRCLED NUMBER FORTY
32B6 CIRCLED NUMBER FORTY /ONE/TWO/THREE/FOUR/FIVE/SIX/SEVEN/EIGHT/NINE
32BF /CIRCLED NUMBER FIFTY
32C0 IDEOGRAPHIC TELEGRAPH SYMBOL FOR /JANUARY/FEBRUARY/MARCH/APRIL/MAY/JUNE/JULY/AUGUST/SEPTEMBER
32C9 IDEOGRAPHIC TELEGRAPH SYMBOL FOR /OCTOBER/NOVEMBER/DECEMBER
32CC SQUARE /HG/ERG/EV
32CF /LIMITED LIABILITY SIGN
32D0 CIRCLED KATAKANA /A/I/U/E/O/KA/KI/KU/KE/KO/SA/SI/SU/SE/SO/TA/TI/TU/TE/TO/NA/NI/NU/NE/NO/HA/HI
32EB CIRCLED KATAKANA /HU/HE/HO/MA/MI/MU/ME/MO/YA/YU/YO/RA/RI/RU/RE/RO/WA/WI/WE/WO
32FF SQUARE /ERA NAME REIWA/APAATO/ARUHUA/ANPEA/AARU/ININGU/INTI/UON/ESUKUUDO/EEKAA/ONSU/OOMU/KAIRI
330C SQUARE /KARATTO/KARORII/GARON/GANMA/GIGA/GINII/KYURII/GIRUDAA/KIRO/KIROGURAMU/KIROMEETORU
3317 SQUARE /KIROWATTO/GURAMU/GURAMUTON/KURUZEIRO/KUROONE/KEESU/KORUNA/KOOPO/SAIKURU/SANTIIMU
3321 SQUARE /SIRINGU/SENTI/SENTO/DAASU/DESI/DORU/TON/NANO/NOTTO/HAITU/PAASENTO/PAATU/BAARERU
332E SQUARE /PIASUTORU/PIKURU/PIKO/BIRU/HUARADDO/HUIITO/BUSSYERU/HURAN/HEKUTAARU/PESO/PENIHI/HERUTU
333A SQUARE /PENSU/PEEZI/BEETA/POINTO/BORUTO/HON/PONDO/HOORU/HOON/MAIKURO/MAIRU/MAHHA/MARUKU
3347 SQUARE /MANSYON/MIKURON/MIRI/MIRIBAARU/MEGA/MEGATON/MEETORU/YAADO/YAARU/YUAN/RITTORU/RIRA
3353 SQUARE /RUPII/RUUBURU/REMU/RENTOGEN/WATTO
3358 IDEOGRAPHIC TELEGRAPH SYMBOL FOR HOUR /ZERO/ONE/TWO/THREE/FOUR/FIVE/SIX/SEVEN/EIGHT/NINE/TEN
3363 IDEOGRAPHIC TELEGRAPH SYMBOL FOR HOUR /ELEVEN/TWELVE/THIRTEEN/FOURTEEN/FIFTEEN/SIXTEEN
3369 IDEOGRAPHIC TELEGRAPH SYMBOL FOR HOUR /SEVENTEEN/EIGHTEEN/NINETEEN/TWENTY
336D IDEOGRAPHIC TELEGRAPH SYMBOL FOR HOUR TWENTY-/ONE/TWO/THREE/FOUR
3371 SQUARE /HPA/DA/AU/BAR/OV/PC/DM/DM SQUARED/DM CUBED/IU
337B SQUARE ERA NAME /HEISEI/SYOUWA/TAISYOU/MEIZI
337F SQUARE /CORPORATION/PA AMPS/NA/MU A/MA/KA/KB/MB/GB/CAL/KCAL/PF/NF/MU F/MU G/MG/KG/HZ/KHZ/MHZ
3393 SQUARE /GHZ/THZ/MU L/ML/DL/KL/FM/NM/MU M/MM/CM/KM/MM SQUARED/CM SQUARED/M SQUARED/KM SQUARED
33A3 SQUARE /MM CUBED/CM CUBED/M CUBED/KM CUBED/M OVER S/M OVER S SQUARED/PA/KPA/MPA/GPA/RAD
33AE SQUARE /RAD OVER S/RAD OVER S SQUARED/PS/NS/MU S/MS/PV/NV/MU V/MV/KV/MV MEGA/PW/NW/MU W/MW/KW
33BF SQUARE /MW MEGA/K OHM/M OHM/AM/BQ/CC/CD/C OVER KG/CO/DB/GY/HA/HP/IN/KK/KM CAPITAL/KT/LM/LN/LOG
33D3 SQUARE /LX/MB SMALL/MIL/MOL/PH/PM/PPM/PR/SR/SV/WB/V OVER M/A OVER M
33E0 IDEOGRAPHIC TELEGRAPH SYMBOL FOR DAY /ONE/TWO/THREE/FOUR/FIVE/SIX/SEVEN/EIGHT/NINE/TEN/ELEVEN
33EB IDEOGRAPHIC TELEGRAPH SYMBOL FOR DAY /TWELVE/THIRTEEN/FOURTEEN/FIFTEEN/SIXTEEN/SEVENTEEN
33F1 IDEOGRAPHIC TELEGRAPH SYMBOL FOR DAY /EIGHTEEN/NINETEEN/TWENTY
33F4 IDEOGRAPHIC TELEGRAPH SYMBOL FOR DAY TWENTY-/ONE/TWO/THREE/FOUR/FIVE/SIX/SEVEN/EIGHT/NINE
33FD IDEOGRAPHIC TELEGRAPH SYMBOL FOR DAY /THIRTY/THIRTY-ONE
33FF /SQUARE GAL
4DC0 HEXAGRAM FOR THE /CREATIVE HEAVEN/RECEPTIVE EARTH
4DC2 HEXAGRAM FOR /DIFFICULTY AT THE BEGINNING/YOUTHFUL FOLLY/WAITING/CONFLICT/THE ARMY
4DC7 HEXAGRAM FOR /HOLDING TOGETHER/SMALL TAMING/TREADING/PEACE/STANDSTILL/FELLOWSHIP
4DCD HEXAGRAM FOR /GREAT POSSESSION/MODESTY/ENTHUSIASM/FOLLOWING/WORK ON THE DECAYED/APPROACH
4DD3 HEXAGRAM FOR /CONTEMPLATION/BITING THROUGH/GRACE/SPLITTING APART/RETURN/INNOCENCE/GREAT TAMING
4DDA HEXAGRAM FOR /MOUTH CORNERS/GREAT PREPONDERANCE/THE ABYSMAL WATER/THE CLINGING FIRE/INFLUENCE
4DDF HEXAGRAM FOR /DURATION/RETREAT/GREAT POWER/PROGRESS/DARKENING OF THE LIGHT/THE FAMILY
4DE5 HEXAGRAM FOR /OPPOSITION/OBSTRUCTION/DELIVERANCE/DECREASE/INCREASE/BREAKTHROUGH/COMING TO MEET
4DEC HEXAGRAM FOR /GATHERING TOGETHER/PUSHING UPWARD/OPPRESSION/THE WELL/REVOLUTION/THE CAULDRON
4DF2 HEXAGRAM FOR /THE AROUSING THUNDER/THE KEEPING STILL MOUNTAIN/DEVELOPMENT/THE MARRYING MAIDEN
4DF6 HEXAGRAM FOR /ABUNDANCE/THE WANDERER/THE GENTLE WIND/THE JOYOUS LAKE/DISPERSION/LIMITATION
4DFC HEXAGRAM FOR /INNER TRUTH/SMALL PREPONDERANCE/AFTER COMPLETION/BEFORE COMPLETION
A000 YI SYLLABLE /IT/IX/I/IP/IET/IEX/IE/IEP/AT/AX/A/AP/UOX/UO/UOP/OT/OX/O/OP/EX/E/WU/BIT/BIX/BI/BIP
A01A YI SYLLABLE /BIET/BIEX/BIE/BIEP/BAT/BAX/BA/BAP/BUOX/BUO/BUOP/BOT/BOX/BO/BOP/BEX/BE/BEP/BUT/BUX
A02E YI SYLLABLE /BU/BUP/BURX/BUR/BYT/BYX/BY/BYP/BYRX/BYR/PIT/PIX/PI/PIP/PIEX/PIE/PIEP/PAT/PAX/PA
A042 YI SYLLABLE /PAP/PUOX/PUO/PUOP/POT/POX/PO/POP/PUT/PUX/PU/PUP/PURX/PUR/PYT/PYX/PY/PYP/PYRX/PYR
A056 YI SYLLABLE /BBIT/BBIX/BBI/BBIP/BBIET/BBIEX/BBIE/BBIEP/BBAT/BBAX/BBA/BBAP/BBUOX/BBUO/BBUOP
A065 YI SYLLABLE /BBOT/BBOX/BBO/BBOP/BBEX/BBE/BBEP/BBUT/BBUX/BBU/BBUP/BBURX/BBUR/BBYT/BBYX/BBY/BBYP
A076 YI SYLLABLE /NBIT/NBIX/NBI/NBIP/NBIEX/NBIE/NBIEP/NBAT/NBAX/NBA/NBAP/NBOT/NBOX/NBO/NBOP/NBUT
A086 YI SYLLABLE /NBUX/NBU/NBUP/NBURX/NBUR/NBYT/NBYX/NBY/NBYP/NBYRX/NBYR/HMIT/HMIX/HMI/HMIP/HMIEX
A096 YI SYLLABLE /HMIE/HMIEP/HMAT/HMAX/HMA/HMAP/HMUOX/HMUO/HMUOP/HMOT/HMOX/HMO/HMOP/HMUT/HMUX/HMU
A0A6 YI SYLLABLE /HMUP/HMURX/HMUR/HMYX/HMY/HMYP/HMYRX/HMYR/MIT/MIX/MI/MIP/MIEX/MIE/MIEP/MAT/MAX/MA
A0B8 YI SYLLABLE /MAP/MUOT/MUOX/MUO/MUOP/MOT/MOX/MO/MOP/MEX/ME/MUT/MUX/MU/MUP/MURX/MUR/MYT/MYX/MY
A0CC YI SYLLABLE /MYP/FIT/FIX/FI/FIP/FAT/FAX/FA/FAP/FOX/FO/FOP/FUT/FUX/FU/FUP/FURX/FUR/FYT/FYX/FY
A0E1 YI SYLLABLE /FYP/VIT/VIX/VI/VIP/VIET/VIEX/VIE/VIEP/VAT/VAX/VA/VAP/VOT/VOX/VO/VOP/VEX/VEP/VUT
A0F5 YI SYLLABLE /VUX/VU/VUP/VURX/VUR/VYT/VYX/VY/VYP/VYRX/VYR/DIT/DIX/DI/DIP/DIEX/DIE/DIEP/DAT/DAX
A109 YI SYLLABLE /DA/DAP/DUOX/DUO/DOT/DOX/DO/DOP/DEX/DE/DEP/DUT/DUX/DU/DUP/DURX/DUR/TIT/TIX/TI/TIP
A11E YI SYLLABLE /TIEX/TIE/TIEP/TAT/TAX/TA/TAP/TUOT/TUOX/TUO/TUOP/TOT/TOX/TO/TOP/TEX/TE/TEP/TUT/TUX
A132 YI SYLLABLE /TU/TUP/TURX/TUR/DDIT/DDIX/DDI/DDIP/DDIEX/DDIE/DDIEP/DDAT/DDAX/DDA/DDAP/DDUOX/DDUO
A143 YI SYLLABLE /DDUOP/DDOT/DDOX/DDO/DDOP/DDEX/DDE/DDEP/DDUT/DDUX/DDU/DDUP/DDURX/DDUR/NDIT/NDIX
A153 YI SYLLABLE /NDI/NDIP/NDIEX/NDIE/NDAT/NDAX/NDA/NDAP/NDOT/NDOX/NDO/NDOP/NDEX/NDE/NDEP/NDUT/NDUX
A164 YI SYLLABLE /NDU/NDUP/NDURX/NDUR/HNIT/HNIX/HNI/HNIP/HNIET/HNIEX/HNIE/HNIEP/HNAT/HNAX/HNA/HNAP
A174 YI SYLLABLE /HNUOX/HNUO/HNOT/HNOX/HNOP/HNEX/HNE/HNEP/HNUT/NIT/NIX/NI/NIP/NIEX/NIE/NIEP/NAX/NA
A186 YI SYLLABLE /NAP/NUOX/NUO/NUOP/NOT/NOX/NO/NOP/NEX/NE/NEP/NUT/NUX/NU/NUP/NURX/NUR/HLIT/HLIX/HLI
A19A YI SYLLABLE /HLIP/HLIEX/HLIE/HLIEP/HLAT/HLAX/HLA/HLAP/HLUOX/HLUO/HLUOP/HLOX/HLO/HLOP/HLEX/HLE
A1AA YI SYLLABLE /HLEP/HLUT/HLUX/HLU/HLUP/HLURX/HLUR/HLYT/HLYX/HLY/HLYP/HLYRX/HLYR/LIT/LIX/LI/LIP
A1BB YI SYLLABLE /LIET/LIEX/LIE/LIEP/LAT/LAX/LA/LAP/LUOT/LUOX/LUO/LUOP/LOT/LOX/LO/LOP/LEX/LE/LEP
A1CE YI SYLLABLE /LUT/LUX/LU/LUP/LURX/LUR/LYT/LYX/LY/LYP/LYRX/LYR/GIT/GIX/GI/GIP/GIET/GIEX/GIE/GIEP
A1E2 YI SYLLABLE /GAT/GAX/GA/GAP/GUOT/GUOX/GUO/GUOP/GOT/GOX/GO/GOP/GET/GEX/GE/GEP/GUT/GUX/GU/GUP
A1F6 YI SYLLABLE /GURX/GUR/KIT/KIX/KI/KIP/KIEX/KIE/KIEP/KAT/KAX/KA/KAP/KUOX/KUO/KUOP/KOT/KOX/KO/KOP
A20A YI SYLLABLE /KET/KEX/KE/KEP/KUT/KUX/KU/KUP/KURX/KUR/GGIT/GGIX/GGI/GGIEX/GGIE/GGIEP/GGAT/GGAX
A21C YI SYLLABLE /GGA/GGAP/GGUOT/GGUOX/GGUO/GGUOP/GGOT/GGOX/GGO/GGOP/GGET/GGEX/GGE/GGEP/GGUT/GGUX
A22C YI SYLLABLE /GGU/GGUP/GGURX/GGUR/MGIEX/MGIE/MGAT/MGAX/MGA/MGAP/MGUOX/MGUO/MGUOP/MGOT/MGOX/MGO
A23C YI SYLLABLE /MGOP/MGEX/MGE/MGEP/MGUT/MGUX/MGU/MGUP/MGURX/MGUR/HXIT/HXIX/HXI/HXIP/HXIET/HXIEX
A24C YI SYLLABLE /HXIE/HXIEP/HXAT/HXAX/HXA/HXAP/HXUOT/HXUOX/HXUO/HXUOP/HXOT/HXOX/HXO/HXOP/HXEX/HXE
A25C YI SYLLABLE /HXEP/NGIEX/NGIE/NGIEP/NGAT/NGAX/NGA/NGAP/NGUOT/NGUOX/NGUO/NGOT/NGOX/NGO/NGOP/NGEX
A26C YI SYLLABLE /NGE/NGEP/HIT/HIEX/HIE/HAT/HAX/HA/HAP/HUOT/HUOX/HUO/HUOP/HOT/HOX/HO/HOP/HEX/HE/HEP
A280 YI SYLLABLE /WAT/WAX/WA/WAP/WUOX/WUO/WUOP/WOX/WO/WOP/WEX/WE/WEP/ZIT/ZIX/ZI/ZIP/ZIEX/ZIE/ZIEP
A294 YI SYLLABLE /ZAT/ZAX/ZA/ZAP/ZUOX/ZUO/ZUOP/ZOT/ZOX/ZO/ZOP/ZEX/ZE/ZEP/ZUT/ZUX/ZU/ZUP/ZURX/ZUR
A2A8 YI SYLLABLE /ZYT/ZYX/ZY/ZYP/ZYRX/ZYR/CIT/CIX/CI/CIP/CIET/CIEX/CIE/CIEP/CAT/CAX/CA/CAP/CUOX/CUO
A2BC YI SYLLABLE /CUOP/COT/COX/CO/COP/CEX/CE/CEP/CUT/CUX/CU/CUP/CURX/CUR/CYT/CYX/CY/CYP/CYRX/CYR
A2D0 YI SYLLABLE /ZZIT/ZZIX/ZZI/ZZIP/ZZIET/ZZIEX/ZZIE/ZZIEP/ZZAT/ZZAX/ZZA/ZZAP/ZZOX/ZZO/ZZOP/ZZEX
A2E0 YI SYLLABLE /ZZE/ZZEP/ZZUX/ZZU/ZZUP/ZZURX/ZZUR/ZZYT/ZZYX/ZZY/ZZYP/ZZYRX/ZZYR/NZIT/NZIX/NZI
A2F0 YI SYLLABLE /NZIP/NZIEX/NZIE/NZIEP/NZAT/NZAX/NZA/NZAP/NZUOX/NZUO/NZOX/NZOP/NZEX/NZE/NZUX/NZU
A300 YI SYLLABLE /NZUP/NZURX/NZUR/NZYT/NZYX/NZY/NZYP/NZYRX/NZYR/SIT/SIX/SI/SIP/SIEX/SIE/SIEP/SAT
A311 YI SYLLABLE /SAX/SA/SAP/SUOX/SUO/SUOP/SOT/SOX/SO/SOP/SEX/SE/SEP/SUT/SUX/SU/SUP/SURX/SUR/SYT
A325 YI SYLLABLE /SYX/SY/SYP/SYRX/SYR/SSIT/SSIX/SSI/SSIP/SSIEX/SSIE/SSIEP/SSAT/SSAX/SSA/SSAP/SSOT
A336 YI SYLLABLE /SSOX/SSO/SSOP/SSEX/SSE/SSEP/SSUT/SSUX/SSU/SSUP/SSYT/SSYX/SSY/SSYP/SSYRX/SSYR/ZHAT
A347 YI SYLLABLE /ZHAX/ZHA/ZHAP/ZHUOX/ZHUO/ZHUOP/ZHOT/ZHOX/ZHO/ZHOP/ZHET/ZHEX/ZHE/ZHEP/ZHUT/ZHUX
A357 YI SYLLABLE /ZHU/ZHUP/ZHURX/ZHUR/ZHYT/ZHYX/ZHY/ZHYP/ZHYRX/ZHYR/CHAT/CHAX/CHA/CHAP/CHUOT/CHUOX
A367 YI SYLLABLE /CHUO/CHUOP/CHOT/CHOX/CHO/CHOP/CHET/CHEX/CHE/CHEP/CHUX/CHU/CHUP/CHURX/CHUR/CHYT
A377 YI SYLLABLE /CHYX/CHY/CHYP/CHYRX/CHYR/RRAX/RRA/RRUOX/RRUO/RROT/RROX/RRO/RROP/RRET/RREX/RRE
A387 YI SYLLABLE /RREP/RRUT/RRUX/RRU/RRUP/RRURX/RRUR/RRYT/RRYX/RRY/RRYP/RRYRX/RRYR/NRAT/NRAX/NRA
A397 YI SYLLABLE /NRAP/NROX/NRO/NROP/NRET/NREX/NRE/NREP/NRUT/NRUX/NRU/NRUP/NRURX/NRUR/NRYT/NRYX/NRY
A3A8 YI SYLLABLE /NRYP/NRYRX/NRYR/SHAT/SHAX/SHA/SHAP/SHUOX/SHUO/SHUOP/SHOT/SHOX/SHO/SHOP/SHET/SHEX
A3B8 YI SYLLABLE /SHE/SHEP/SHUT/SHUX/SHU/SHUP/SHURX/SHUR/SHYT/SHYX/SHY/SHYP/SHYRX/SHYR/RAT/RAX/RA
A3C9 YI SYLLABLE /RAP/RUOX/RUO/RUOP/ROT/ROX/RO/ROP/REX/RE/REP/RUT/RUX/RU/RUP/RURX/RUR/RYT/RYX/RY
A3DD YI SYLLABLE /RYP/RYRX/RYR/JIT/JIX/JI/JIP/JIET/JIEX/JIE/JIEP/JUOT/JUOX/JUO/JUOP/JOT/JOX/JO/JOP
A3F0 YI SYLLABLE /JUT/JUX/JU/JUP/JURX/JUR/JYT/JYX/JY/JYP/JYRX/JYR/QIT/QIX/QI/QIP/QIET/QIEX/QIE/QIEP
A404 YI SYLLABLE /QUOT/QUOX/QUO/QUOP/QOT/QOX/QO/QOP/QUT/QUX/QU/QUP/QURX/QUR/QYT/QYX/QY/QYP/QYRX/QYR
A418 YI SYLLABLE /JJIT/JJIX/JJI/JJIP/JJIET/JJIEX/JJIE/JJIEP/JJUOX/JJUO/JJUOP/JJOT/JJOX/JJO/JJOP
A427 YI SYLLABLE /JJUT/JJUX/JJU/JJUP/JJURX/JJUR/JJYT/JJYX/JJY/JJYP/NJIT/NJIX/NJI/NJIP/NJIET/NJIEX
A437 YI SYLLABLE /NJIE/NJIEP/NJUOX/NJUO/NJOT/NJOX/NJO/NJOP/NJUX/NJU/NJUP/NJURX/NJUR/NJYT/NJYX/NJY
A447 YI SYLLABLE /NJYP/NJYRX/NJYR/NYIT/NYIX/NYI/NYIP/NYIET/NYIEX/NYIE/NYIEP/NYUOX/NYUO/NYUOP/NYOT
A456 YI SYLLABLE /NYOX/NYO/NYOP/NYUT/NYUX/NYU/NYUP/XIT/XIX/XI/XIP/XIET/XIEX/XIE/XIEP/XUOX/XUO/XOT
A468 YI SYLLABLE /XOX/XO/XOP/XYT/XYX/XY/XYP/XYRX/XYR/YIT/YIX/YI/YIP/YIET/YIEX/YIE/YIEP/YUOT/YUOX
A47B YI SYLLABLE /YUO/YUOP/YOT/YOX/YO/YOP/YUT/YUX/YU/YUP/YURX/YUR/YYT/YYX/YY/YYP/YYRX/YYR
A490 YI RADICAL /QOT/LI/KIT/NYIP/CYP/SSI/GGOP/GEP/MI/HXIT/LYR/BBUT/MOP/YO/PUT/HXUO/TAT/GA/ZUP/CYT
A4A4 YI RADICAL /DDUR/BUR/GGUO/NYOP/TU/OP/JJUT/ZOT/PYT/HMO/YIT/VUR/SHY/VEP/ZA/JO/NZUP/JJY/GOT/JJIE
A4B8 YI RADICAL /WO/DU/SHUR/LIE/CY/CUOP/CIP/HXOP/SHAT/ZUR/SHOP/CHE/ZZIET/NBIE/KE
A4D0 LISU LETTER /BA/PA/PHA/DA/TA/THA/GA/KA/KHA/JA/CA/CHA/DZA/TSA/TSHA/MA/NA/LA/SA/ZHA/ZA/NGA/HA/XA
A4E8 LISU LETTER /HHA/FA/WA/SHA/YA/GHA/A/AE/E/EU/I/O/U/UE/UH/OE/TONE MYA TI/TONE NA PO
A4FA LISU LETTER TONE MYA /CYA/BO/NA/JEU
A4FE LISU PUNCTUATION /COMMA/FULL STOP
A500 VAI SYLLABLE /EE/EEN/HEE/WEE/WEEN/PEE/BHEE/BEE/MBEE/KPEE/MGBEE/GBEE/FEE/VEE/TEE/THEE/DHEE
A511 VAI SYLLABLE /DHHEE/LEE/REE/DEE/NDEE/SEE/SHEE/ZEE/ZHEE/CEE/JEE/NJEE/YEE/KEE/NGGEE/GEE/MEE/NEE
A523 VAI SYLLABLE /NYEE/I/IN/HI/HIN/WI/WIN/PI/BHI/BI/MBI/KPI/MGBI/GBI/FI/VI/TI/THI/DHI/DHHI/LI/RI
A539 VAI SYLLABLE /DI/NDI/SI/SHI/ZI/ZHI/CI/JI/NJI/YI/KI/NGGI/GI/MI/NI/NYI/A/AN/NGAN/HA/HAN/WA/WAN
A550 VAI SYLLABLE /PA/BHA/BA/MBA/KPA/KPAN/MGBA/GBA/FA/VA/TA/THA/DHA/DHHA/LA/RA/DA/NDA/SA/SHA/ZA/ZHA
A566 VAI SYLLABLE /CA/JA/NJA/YA/KA/KAN/NGGA/GA/MA/NA/NYA/OO/OON/HOO/WOO/WOON/POO/BHOO/BOO/MBOO/KPOO
A57B VAI SYLLABLE /MGBOO/GBOO/FOO/VOO/TOO/THOO/DHOO/DHHOO/LOO/ROO/DOO/NDOO/SOO/SHOO/ZOO/ZHOO/COO
A58C VAI SYLLABLE /JOO/NJOO/YOO/KOO/NGGOO/GOO/MOO/NOO/NYOO/U/UN/HU/HUN/WU/WUN/PU/BHU/BU/MBU/KPU
A5A0 VAI SYLLABLE /MGBU/GBU/FU/VU/TU/THU/DHU/DHHU/LU/RU/DU/NDU/SU/SHU/ZU/ZHU/CU/JU/NJU/YU/KU/NGGU
A5B6 VAI SYLLABLE /GU/MU/NU/NYU/O/ON/NGON/HO/HON/WO/WON/PO/BHO/BO/MBO/KPO/MGBO/GBO/GBON/FO/VO/TO
A5CC VAI SYLLABLE /THO/DHO/DHHO/LO/RO/DO/NDO/SO/SHO/ZO/ZHO/CO/JO/NJO/YO/KO/NGGO/GO/MO/NO/NYO/E/EN
A5E3 VAI SYLLABLE /NGEN/HE/HEN/WE/WEN/PE/BHE/BE/MBE/KPE/KPEN/MGBE/GBE/GBEN/FE/VE/TE/THE/DHE/DHHE/LE
A5F8 VAI SYLLABLE /RE/DE/NDE/SE/SHE/ZE/ZHE/CE/JE/NJE/YE/KE/NGGE/NGGEN/GE/GEN/ME/NE/NYE/NG
A60C VAI /SYLLABLE LENGTHENER/COMMA/FULL STOP/QUESTION MARK
A610 VAI SYLLABLE NDOLE /FA/KA/SOO
A613 VAI SYMBOL /FEENG/KEENG/TING/NII/BANG/FAA/TAA/DANG/DOONG/KUNG/TONG/DO-O/JONG
A620 VAI DIGIT /ZERO/ONE/TWO/THREE/FOUR/FIVE/SIX/SEVEN/EIGHT/NINE
A62A VAI SYLLABLE NDOLE /MA/DO
A640 CYRILLIC /CAPITAL LETTER ZEMLYA/SMALL LETTER ZEMLYA/CAPITAL LETTER DZELO/SMALL LETTER DZELO
A644 CYRILLIC /CAPITAL LETTER REVERSED DZE/SMALL LETTER REVERSED DZE/CAPITAL LETTER IOTA
A647 CYRILLIC /SMALL LETTER IOTA/CAPITAL LETTER DJERV/SMALL LETTER DJERV
A64A CYRILLIC /CAPITAL LETTER MONOGRAPH UK/SMALL LETTER MONOGRAPH UK/CAPITAL LETTER BROAD OMEGA
A64D CYRILLIC /SMALL LETTER BROAD OMEGA/CAPITAL LETTER NEUTRAL YER/SMALL LETTER NEUTRAL YER
A650 CYRILLIC /CAPITAL LETTER YERU WITH BACK YER/SMALL LETTER YERU WITH BACK YER
A652 CYRILLIC /CAPITAL LETTER IOTIFIED YAT/SMALL LETTER IOTIFIED YAT/CAPITAL LETTER REVERSED YU
A655 CYRILLIC /SMALL LETTER REVERSED YU/CAPITAL LETTER IOTIFIED A/SMALL LETTER IOTIFIED A
A658 CYRILLIC /CAPITAL LETTER CLOSED LITTLE YUS/SMALL LETTER CLOSED LITTLE YUS
A65A CYRILLIC /CAPITAL LETTER BLENDED YUS/SMALL LETTER BLENDED YUS
A65C CYRILLIC /CAPITAL LETTER IOTIFIED CLOSED LITTLE YUS/SMALL LETTER IOTIFIED CLOSED LITTLE YUS
A65E CYRILLIC /CAPITAL LETTER YN/SMALL LETTER YN/CAPITAL LETTER REVERSED TSE
A661 CYRILLIC /SMALL LETTER REVERSED TSE/CAPITAL LETTER SOFT DE/SMALL LETTER SOFT DE
A664 CYRILLIC /CAPITAL LETTER SOFT EL/SMALL LETTER SOFT EL/CAPITAL LETTER SOFT EM
A667 CYRILLIC /SMALL LETTER SOFT EM/CAPITAL LETTER MONOCULAR O/SMALL LETTER MONOCULAR O
A66A CYRILLIC /CAPITAL LETTER BINOCULAR O/SMALL LETTER BINOCULAR O
A66C CYRILLIC /CAPITAL LETTER DOUBLE MONOCULAR O/SMALL LETTER DOUBLE MONOCULAR O
A66E /CYRILLIC LETTER MULTIOCULAR O
A66F COMBINING CYRILLIC /VZMET/TEN MILLIONS SIGN/HUNDRED MILLIONS SIGN/THOUSAND MILLIONS SIGN
A673 /SLAVONIC ASTERISK
A674 COMBINING CYRILLIC LETTER /UKRAINIAN IE/I/YI/U/HARD SIGN/YERU/SOFT SIGN/OMEGA
A67C COMBINING CYRILLIC /KAVYKA/PAYEROK
A67E CYRILLIC /KAVYKA/PAYEROK/CAPITAL LETTER DWE/SMALL LETTER DWE/CAPITAL LETTER DZWE
A683 CYRILLIC /SMALL LETTER DZWE/CAPITAL LETTER ZHWE/SMALL LETTER ZHWE/CAPITAL LETTER CCHE
A687 CYRILLIC /SMALL LETTER CCHE/CAPITAL LETTER DZZE/SMALL LETTER DZZE
A68A CYRILLIC /CAPITAL LETTER TE WITH MIDDLE HOOK/SMALL LETTER TE WITH MIDDLE HOOK
A68C CYRILLIC /CAPITAL LETTER TWE/SMALL LETTER TWE/CAPITAL LETTER TSWE/SMALL LETTER TSWE
A690 CYRILLIC /CAPITAL LETTER TSSE/SMALL LETTER TSSE/CAPITAL LETTER TCHE/SMALL LETTER TCHE
A694 CYRILLIC /CAPITAL LETTER HWE/SMALL LETTER HWE/CAPITAL LETTER SHWE/SMALL LETTER SHWE
A698 CYRILLIC /CAPITAL LETTER DOUBLE O/SMALL LETTER DOUBLE O/CAPITAL LETTER CROSSED O
A69B /CYRILLIC SMALL LETTER CROSSED O
A69C MODIFIER LETTER CYRILLIC /HARD SIGN/SOFT SIGN
A69E COMBINING CYRILLIC LETTER /EF/IOTIFIED E
A6A0 BAMUM LETTER /A/KA/U/KU/EE/REE/TAE/O/NYI/I/LA/PA/RII/RIEE/LEEEE/MEEEE/TAA/NDAA/NJAEM/M/SUU/MU
A6B6 BAMUM LETTER /SHII/SI/SHEUX/SEUX/KYEE/KET/NUAE/NU/NJUAE/YOQ/SHU/YUQ/YA/NSHA/KEUX/PEUX/NJEE
A6C7 BAMUM LETTER /NTEE/PUE/WUE/PEE/FEE/RU/LU/MI/NI/REUX/RAE/KEN/NGKWAEN/NGGA/NGA/SHO/PUAE/FU/FOM
A6DA BAMUM LETTER /WA/NA/LI/PI/LOQ/KO/MBEN/REN/MEN/MA/TI/KI/MO/MBAA/TET/KPA/TEN/NTUU/SAMBA/FAAMAE
A6EE BAMUM LETTER /KOVUU/KOGHOM
A6F0 BAMUM COMBINING MARK /KOQNDON/TUKWENTIS
A6F2 BAMUM /NJAEMLI/FULL STOP/COLON/COMMA/SEMICOLON/QUESTION MARK
A700 MODIFIER LETTER CHINESE TONE /YIN PING/YANG PING/YIN SHANG/YANG SHANG/YIN QU/YANG QU/YIN RU
A707 MODIFIER LETTER /CHINESE TONE YANG RU/EXTRA-HIGH DOTTED TONE BAR/HIGH DOTTED TONE BAR
A70A MODIFIER LETTER /MID DOTTED TONE BAR/LOW DOTTED TONE BAR/EXTRA-LOW DOTTED TONE BAR
A70D MODIFIER LETTER /EXTRA-HIGH DOTTED LEFT-STEM TONE BAR/HIGH DOTTED LEFT-STEM TONE BAR
A70F MODIFIER LETTER /MID DOTTED LEFT-STEM TONE BAR/LOW DOTTED LEFT-STEM TONE BAR
A711 MODIFIER LETTER EXTRA-/LOW DOTTED LEFT-STEM TONE BAR/HIGH LEFT-STEM TONE BAR
A713 MODIFIER LETTER /HIGH LEFT-STEM TONE BAR/MID LEFT-STEM TONE BAR/LOW LEFT-STEM TONE BAR
A716 MODIFIER LETTER /EXTRA-LOW LEFT-STEM TONE BAR/DOT VERTICAL BAR/DOT SLASH/DOT HORIZONTAL BAR
A71A /MODIFIER LETTER LOWER RIGHT CORNER ANGLE
A71B MODIFIER LETTER RAISED /UP ARROW/DOWN ARROW/EXCLAMATION MARK/INVERTED EXCLAMATION MARK
A71F MODIFIER LETTER /LOW INVERTED EXCLAMATION MARK/STRESS AND HIGH TONE/STRESS AND LOW TONE
A722 LATIN /CAPITAL LETTER EGYPTOLOGICAL ALEF/SMALL LETTER EGYPTOLOGICAL ALEF
A724 LATIN /CAPITAL LETTER EGYPTOLOGICAL AIN/SMALL LETTER EGYPTOLOGICAL AIN/CAPITAL LETTER HENG
A727 LATIN /SMALL LETTER HENG/CAPITAL LETTER TZ/SMALL LETTER TZ/CAPITAL LETTER TRESILLO
A72B LATIN /SMALL LETTER TRESILLO/CAPITAL LETTER CUATRILLO/SMALL LETTER CUATRILLO
A72E LATIN /CAPITAL LETTER CUATRILLO WITH COMMA/SMALL LETTER CUATRILLO WITH COMMA
A730 LATIN LETTER SMALL CAPITAL /F/S
A732 LATIN /CAPITAL LETTER AA/SMALL LETTER AA/CAPITAL LETTER AO/SMALL LETTER AO/CAPITAL LETTER AU
A737 LATIN /SMALL LETTER AU/CAPITAL LETTER AV/SMALL LETTER AV/CAPITAL LETTER AV WITH HORIZONTAL BAR
A73B LATIN /SMALL LETTER AV WITH HORIZONTAL BAR/CAPITAL LETTER AY/SMALL LETTER AY
A73E LATIN /CAPITAL LETTER REVERSED C WITH DOT/SMALL LETTER REVERSED C WITH DOT
A740 LATIN /CAPITAL LETTER K WITH STROKE/SMALL LETTER K WITH STROKE
A742 LATIN /CAPITAL LETTER K WITH DIAGONAL STROKE/SMALL LETTER K WITH DIAGONAL STROKE
A744 /LATIN CAPITAL LETTER K WITH STROKE AND DIAGONAL STROKE
A745 LATIN /SMALL LETTER K WITH STROKE AND DIAGONAL STROKE/CAPITAL LETTER BROKEN L
A747 LATIN /SMALL LETTER BROKEN L/CAPITAL LETTER L WITH HIGH STROKE/SMALL LETTER L WITH HIGH STROKE
A74A LATIN /CAPITAL LETTER O WITH LONG STROKE OVERLAY/SMALL LETTER O WITH LONG STROKE OVERLAY
A74C LATIN /CAPITAL LETTER O WITH LOOP/SMALL LETTER O WITH LOOP/CAPITAL LETTER OO/SMALL LETTER OO
A750 /LATIN CAPITAL LETTER P WITH STROKE THROUGH DESCENDER
A751 LATIN /SMALL LETTER P WITH STROKE THROUGH DESCENDER/CAPITAL LETTER P WITH FLOURISH
A753 LATIN /SMALL LETTER P WITH FLOURISH/CAPITAL LETTER P WITH SQUIRREL TAIL
A755 LATIN /SMALL LETTER P WITH SQUIRREL TAIL/CAPITAL LETTER Q WITH STROKE THROUGH DESCENDER
A757 LATIN /SMALL LETTER Q WITH STROKE THROUGH DESCENDER/CAPITAL LETTER Q WITH DIAGONAL STROKE
A759 LATIN /SMALL LETTER Q WITH DIAGONAL STROKE/CAPITAL LETTER R ROTUNDA/SMALL LETTER R ROTUNDA
A75C LATIN /CAPITAL LETTER RUM ROTUNDA/SMALL LETTER RUM ROTUNDA
A75E LATIN /CAPITAL LETTER V WITH DIAGONAL STROKE/SMALL LETTER V WITH DIAGONAL STROKE
A760 LATIN /CAPITAL LETTER VY/SMALL LETTER VY/CAPITAL LETTER VISIGOTHIC Z/SMALL LETTER VISIGOTHIC Z
A764 LATIN /CAPITAL LETTER THORN WITH STROKE/SMALL LETTER THORN WITH STROKE
A766 /LATIN CAPITAL LETTER THORN WITH STROKE THROUGH DESCENDER
A767 LATIN /SMALL LETTER THORN WITH STROKE THROUGH DESCENDER/CAPITAL LETTER VEND/SMALL LETTER VEND
A76A LATIN /CAPITAL LETTER ET/SMALL LETTER ET/CAPITAL LETTER IS/SMALL LETTER IS/CAPITAL LETTER CON
A76F /LATIN SMALL LETTER CON/MODIFIER LETTER US
A771 LATIN SMALL LETTER /DUM/LUM/MUM/NUM/RUM
A776 LATIN /LETTER SMALL CAPITAL RUM/SMALL LETTER TUM/SMALL LETTER UM/CAPITAL LETTER INSULAR D
A77A LATIN /SMALL LETTER INSULAR D/CAPITAL LETTER INSULAR F/SMALL LETTER INSULAR F
A77D LATIN CAPITAL LETTER /INSULAR G/TURNED INSULAR G
A77F LATIN /SMALL LETTER TURNED INSULAR G/CAPITAL LETTER TURNED L/SMALL LETTER TURNED L
A782 LATIN /CAPITAL LETTER INSULAR R/SMALL LETTER INSULAR R/CAPITAL LETTER INSULAR S
A785 LATIN /SMALL LETTER INSULAR S/CAPITAL LETTER INSULAR T/SMALL LETTER INSULAR T
A788 MODIFIER LETTER /LOW CIRCUMFLEX ACCENT/COLON/SHORT EQUALS SIGN
A78B LATIN /CAPITAL LETTER SALTILLO/SMALL LETTER SALTILLO/CAPITAL LETTER TURNED H
A78E LATIN /SMALL LETTER L WITH RETROFLEX HOOK AND BELT/LETTER SINOLOGICAL DOT
A790 LATIN /CAPITAL LETTER N WITH DESCENDER/SMALL LETTER N WITH DESCENDER/CAPITAL LETTER C WITH BAR
A793 LATIN SMALL LETTER /C WITH BAR/C WITH PALATAL HOOK/H WITH PALATAL HOOK
A796 LATIN /CAPITAL LETTER B WITH FLOURISH/SMALL LETTER B WITH FLOURISH
A798 LATIN /CAPITAL LETTER F WITH STROKE/SMALL LETTER F WITH STROKE/CAPITAL LETTER VOLAPUK AE
A79B LATIN /SMALL LETTER VOLAPUK AE/CAPITAL LETTER VOLAPUK OE/SMALL LETTER VOLAPUK OE
A79E LATIN /CAPITAL LETTER VOLAPUK UE/SMALL LETTER VOLAPUK UE/CAPITAL LETTER G WITH OBLIQUE STROKE
A7A1 LATIN /SMALL LETTER G WITH OBLIQUE STROKE/CAPITAL LETTER K WITH OBLIQUE STROKE
A7A3 LATIN /SMALL LETTER K WITH OBLIQUE STROKE/CAPITAL LETTER N WITH OBLIQUE STROKE
A7A5 LATIN /SMALL LETTER N WITH OBLIQUE STROKE/CAPITAL LETTER R WITH OBLIQUE STROKE
A7A7 LATIN /SMALL LETTER R WITH OBLIQUE STROKE/CAPITAL LETTER S WITH OBLIQUE STROKE
A7A9 /LATIN SMALL LETTER S WITH OBLIQUE STROKE
A7AA LATIN CAPITAL LETTER /H WITH HOOK/REVERSED OPEN E/SCRIPT G/L WITH BELT/SMALL CAPITAL I
A7AF /LATIN LETTER SMALL CAPITAL Q
A7B0 LATIN CAPITAL LETTER /TURNED K/TURNED T/J WITH CROSSED-TAIL/CHI/BETA
A7B5 LATIN /SMALL LETTER BETA/CAPITAL LETTER OMEGA/SMALL LETTER OMEGA/CAPITAL LETTER U WITH STROKE
A7B9 LATIN /SMALL LETTER U WITH STROKE/CAPITAL LETTER GLOTTAL A/SMALL LETTER GLOTTAL A
A7BC LATIN /CAPITAL LETTER GLOTTAL I/SMALL LETTER GLOTTAL I/CAPITAL LETTER GLOTTAL U
A7BF LATIN /SMALL LETTER GLOTTAL U/CAPITAL LETTER OLD POLISH O/SMALL LETTER OLD POLISH O
A7C2 LATIN /CAPITAL LETTER ANGLICANA W/SMALL LETTER ANGLICANA W/CAPITAL LETTER C WITH PALATAL HOOK
A7C5 LATIN CAPITAL LETTER /S WITH HOOK/Z WITH PALATAL HOOK/D WITH SHORT STROKE OVERLAY
A7C8 LATIN /SMALL LETTER D WITH SHORT STROKE OVERLAY/CAPITAL LETTER S WITH SHORT STROKE OVERLAY
A7CA /LATIN SMALL LETTER S WITH SHORT STROKE OVERLAY
A7D0 LATIN /CAPITAL LETTER CLOSED INSULAR G/SMALL LETTER CLOSED INSULAR G
A7D3 /LATIN SMALL LETTER DOUBLE THORN
A7D5 LATIN /SMALL LETTER DOUBLE WYNN/CAPITAL LETTER MIDDLE SCOTS S/SMALL LETTER MIDDLE SCOTS S
A7D8 LATIN /CAPITAL LETTER SIGMOID S/SMALL LETTER SIGMOID S
A7F2 MODIFIER LETTER CAPITAL /C/F/Q
A7F5 LATIN /CAPITAL LETTER REVERSED HALF H/SMALL LETTER REVERSED HALF H
A7F7 /LATIN EPIGRAPHIC LETTER SIDEWAYS I
A7F8 MODIFIER LETTER /CAPITAL H WITH STROKE/SMALL LIGATURE OE
A7FA /LATIN LETTER SMALL CAPITAL TURNED M
A7FB LATIN EPIGRAPHIC LETTER /REVERSED F/REVERSED P/INVERTED M/I LONGA/ARCHAIC M
A800 SYLOTI NAGRI /LETTER A/LETTER I/SIGN DVISVARA/LETTER U/LETTER E/LETTER O/SIGN HASANTA
A807 SYLOTI NAGRI LETTER /KO/KHO/GO/GHO
A80B SYLOTI NAGRI /SIGN ANUSVARA/LETTER CO/LETTER CHO/LETTER JO
A80F SYLOTI NAGRI LETTER /JHO/TTO/TTHO/DDO/DDHO/TO/THO/DO/DHO/NO/PO/PHO/BO/BHO/MO/RO/LO/RRO/SO/HO
A823 SYLOTI NAGRI VOWEL SIGN /A/I/U/E/OO
A828 SYLOTI NAGRI POETRY MARK-/1/2/3/4
A82C /SYLOTI NAGRI SIGN ALTERNATE HASANTA
A830 NORTH INDIC FRACTION /ONE QUARTER/ONE HALF/THREE QUARTERS/ONE SIXTEENTH/ONE EIGHTH
A835 NORTH INDIC /FRACTION THREE SIXTEENTHS/QUARTER MARK/PLACEHOLDER MARK/RUPEE MARK/QUANTITY MARK
A840 PHAGS-PA LETTER /KA/KHA/GA/NGA/CA/CHA/JA/NYA/TA/THA/DA/NA/PA/PHA/BA/MA/TSA/TSHA/DZA/WA/ZHA/ZA
A856 PHAGS-PA LETTER /SMALL A/YA/RA/LA/SHA/SA/HA/A/I/U/E/O/QA/XA/FA/GGA/EE
A867 PHAGS-PA SUBJOINED LETTER /WA/YA
A869 PHAGS-PA LETTER /TTA/TTHA/DDA/NNA/ALTERNATE YA/VOICELESS SHA/VOICED HA/ASPIRATED FA
A871 PHAGS-PA /SUBJOINED LETTER RA/SUPERFIXED LETTER RA/LETTER CANDRABINDU/SINGLE HEAD MARK
A875 PHAGS-PA /DOUBLE HEAD MARK/MARK SHAD/MARK DOUBLE SHAD
A880 SAURASHTRA SIGN /ANUSVARA/VISARGA
A882 SAURASHTRA LETTER /A/AA/I/II/U/UU/VOCALIC R/VOCALIC RR/VOCALIC L/VOCALIC LL/E/EE/AI/O/OO/AU/KA
A893 SAURASHTRA LETTER /KHA/GA/GHA/NGA/CA/CHA/JA/JHA/NYA/TTA/TTHA/DDA/DDHA/NNA/TA/THA/DA/DHA/NA/PA
A8A7 SAURASHTRA LETTER /PHA/BA/BHA/MA/YA/RA/LA/VA/SHA/SSA/SA/HA/LLA
A8B4 /SAURASHTRA CONSONANT SIGN HAARU
A8B5 SAURASHTRA VOWEL SIGN /AA/I/II/U/UU/VOCALIC R/VOCALIC RR/VOCALIC L/VOCALIC LL/E/EE/AI/O/OO/AU
A8C4 SAURASHTRA SIGN /VIRAMA/CANDRABINDU
A8CE SAURASHTRA /DANDA/DOUBLE DANDA
A8D0 SAURASHTRA DIGIT /ZERO/ONE/TWO/THREE/FOUR/FIVE/SIX/SEVEN/EIGHT/NINE
A8E0 COMBINING DEVANAGARI DIGIT /ZERO/ONE/TWO/THREE/FOUR/FIVE/SIX/SEVEN/EIGHT/NINE
A8EA COMBINING DEVANAGARI LETTER /A/U/KA/NA/PA/RA/VI
A8F1 /COMBINING DEVANAGARI SIGN AVAGRAHA
A8F2 DEVANAGARI SIGN /SPACING CANDRABINDU/CANDRABINDU VIRAMA/DOUBLE CANDRABINDU VIRAMA
A8F5 DEVANAGARI SIGN CANDRABINDU /TWO/THREE/AVAGRAHA
A8F8 DEVANAGARI /SIGN PUSHPIKA/GAP FILLER/CARET/HEADSTROKE/SIGN SIDDHAM/JAIN OM/LETTER AY
A8FF /DEVANAGARI VOWEL SIGN AY
A900 KAYAH LI DIGIT /ZERO/ONE/TWO/THREE/FOUR/FIVE/SIX/SEVEN/EIGHT/NINE
A90A KAYAH LI LETTER /KA/KHA/GA/NGA/SA/SHA/ZA/NYA/TA/HTA/NA/PA/PHA/MA/DA/BA/RA/YA/LA/WA/THA/HA/VA
A921 KAYAH LI LETTER /CA/A/OE/I/OO
A926 KAYAH LI VOWEL /UE/E/U/EE/O
A92B KAYAH LI TONE /PLOPHU/CALYA/CALYA PLOPHU
A92E KAYAH LI SIGN /CWI/SHYA
A930 REJANG LETTER /KA/GA/NGA/TA/DA/NA/PA/BA/MA/CA/JA/NYA/SA/RA/LA/YA/WA/HA/MBA/NGGA/NDA/NYJA/A
A947 REJANG VOWEL SIGN /I/U/E/AI/O/AU/EU/EA
A94F REJANG CONSONANT SIGN /NG/N/R/H
A953 /REJANG VIRAMA
A95F /REJANG SECTION MARK
A960 HANGUL CHOSEONG TIKEUT-/MIEUM/PIEUP/SIOS/CIEUC
A964 HANGUL CHOSEONG RIEUL-/KIYEOK/SSANGKIYEOK/TIKEUT/SSANGTIKEUT/MIEUM/PIEUP/SSANGPIEUP
A96B HANGUL CHOSEONG RIEUL-/KAPYEOUNPIEUP/SIOS/CIEUC/KHIEUKH
A96F HANGUL CHOSEONG MIEUM-/KIYEOK/TIKEUT/SIOS
A972 HANGUL CHOSEONG PIEUP-/SIOS-THIEUTH/KHIEUKH/HIEUH
A975 HANGUL CHOSEONG /SSANGSIOS-PIEUP/IEUNG-RIEUL/IEUNG-HIEUH/SSANGCIEUC-HIEUH/SSANGTHIEUTH
A97A HANGUL CHOSEONG /PHIEUPH-HIEUH/HIEUH-SIOS/SSANGYEORINHIEUH
A980 JAVANESE SIGN /PANYANGGA/CECAK/LAYAR/WIGNYAN
A984 JAVANESE LETTER /A/I KAWI/I/II/U/PA CEREK/NGA LELET/NGA LELET RASWADI/E/AI/O/KA/KA SASAK
A991 JAVANESE LETTER /KA MURDA/GA/GA MURDA/NGA/CA/CA MURDA/JA/NYA MURDA/JA MAHAPRANA/NYA/TTA
A99C JAVANESE LETTER /TTA MAHAPRANA/DDA/DDA MAHAPRANA/NA MURDA/TA/TA MURDA/DA/DA MAHAPRANA/NA/PA
A9A6 JAVANESE LETTER /PA MURDA/BA/BA MURDA/MA/YA/RA/RA AGUNG/LA/WA/SA MURDA/SA MAHAPRANA/SA/HA
A9B3 /JAVANESE SIGN CECAK TELU
A9B4 JAVANESE VOWEL SIGN /TARUNG/TOLONG/WULU/WULU MELIK/SUKU/SUKU MENDUT/TALING/DIRGA MURE/PEPET
A9BD JAVANESE CONSONANT SIGN /KERET/PENGKAL/CAKRA
A9C0 JAVANESE /PANGKON/LEFT RERENGGAN/RIGHT RERENGGAN
A9C3 JAVANESE PADA /ANDAP/MADYA/LUHUR/WINDU/PANGKAT/LINGSA/LUNGSI/ADEG/ADEG ADEG/PISELEH
A9CD /JAVANESE TURNED PADA PISELEH
A9CF /JAVANESE PANGRANGKEP
A9D0 JAVANESE DIGIT /ZERO/ONE/TWO/THREE/FOUR/FIVE/SIX/SEVEN/EIGHT/NINE
A9DE JAVANESE PADA /TIRTA TUMETES/ISEN-ISEN
A9E0 MYANMAR LETTER SHAN /GHA/CHA/JHA/NNA/BHA
A9E5 MYANMAR /SIGN SHAN SAW/MODIFIER LETTER SHAN REDUPLICATION
A9E7 MYANMAR LETTER TAI LAING /NYA/FA/GA/GHA/JA/JHA/DDA/DDHA/NNA
A9F0 MYANMAR TAI LAING DIGIT /ZERO/ONE/TWO/THREE/FOUR/FIVE/SIX/SEVEN/EIGHT/NINE
A9FA MYANMAR LETTER TAI LAING /LLA/DA/DHA/BA/BHA
AA00 CHAM LETTER /A/I/U/E/AI/O/KA/KHA/GA/GHA/NGUE/NGA/CHA/CHHA/JA/JHA/NHUE/NHA/NHJA/TA/THA/DA/DHA
AA17 CHAM LETTER /NUE/NA/DDA/PA/PPA/PHA/BA/BHA/MUE/MA/BBA/YA/RA/LA/VA/SSA/SA/HA
AA29 CHAM VOWEL SIGN /AA/I/II/EI/U/OE/O/AI/AU/UE
AA33 CHAM CONSONANT SIGN /YA/RA/LA/WA
AA40 CHAM LETTER FINAL /K/G/NG
AA43 /CHAM CONSONANT SIGN FINAL NG
AA44 CHAM LETTER FINAL /CH/T/N/P/Y/R/L/SS
AA4C CHAM CONSONANT SIGN FINAL /M/H
AA50 CHAM DIGIT /ZERO/ONE/TWO/THREE/FOUR/FIVE/SIX/SEVEN/EIGHT/NINE
AA5C CHAM PUNCTUATION /SPIRAL/DANDA/DOUBLE DANDA/TRIPLE DANDA
AA60 MYANMAR LETTER KHAMTI /GA/CA/CHA/JA/JHA/NYA/TTA/TTHA/DDA/DDHA/DHA/NA/SA/HA/HHA/FA
AA70 /MYANMAR MODIFIER LETTER KHAMTI REDUPLICATION
AA71 MYANMAR LETTER KHAMTI /XA/ZA/RA
AA74 MYANMAR LOGOGRAM KHAMTI /OAY/QN/HM
AA77 MYANMAR SYMBOL AITON /EXCLAMATION/ONE/TWO
AA7A MYANMAR /LETTER AITON RA/SIGN PAO KAREN TONE
AA7C MYANMAR SIGN TAI LAING TONE-/2/5
AA7E MYANMAR LETTER SHWE PALAUNG /CHA/SHA
AA80 TAI VIET LETTER /LOW KO/HIGH KO/LOW KHO/HIGH KHO/LOW KHHO/HIGH KHHO/LOW GO/HIGH GO/LOW NGO
AA89 TAI VIET LETTER /HIGH NGO/LOW CO/HIGH CO/LOW CHO/HIGH CHO/LOW SO/HIGH SO/LOW NYO/HIGH NYO
AA92 TAI VIET LETTER /LOW DO/HIGH DO/LOW TO/HIGH TO/LOW THO/HIGH THO/LOW NO/HIGH NO/LOW BO/HIGH BO
AA9C TAI VIET LETTER /LOW PO/HIGH PO/LOW PHO/HIGH PHO/LOW FO/HIGH FO/LOW MO/HIGH MO/LOW YO/HIGH YO
AAA6 TAI VIET LETTER /LOW RO/HIGH RO/LOW LO/HIGH LO/LOW VO/HIGH VO/LOW HO/HIGH HO/LOW O/HIGH O
AAB0 /TAI VIET MAI KANG
AAB1 TAI VIET VOWEL /AA/I/UE/U/E/O
AAB7 /TAI VIET MAI KHIT
AAB8 TAI VIET VOWEL /IA/UEA/UA/AUE/AY/AN/AM
AABF TAI VIET TONE MAI /EK/NUENG/THO/SONG
AADB TAI VIET SYMBOL /KON/NUENG/SAM/HO HOI/KOI KOI
AAE0 MEETEI MAYEK LETTER /E/O/CHA/NYA/TTA/TTHA/DDA/DDHA/NNA/SHA/SSA
AAEB MEETEI MAYEK VOWEL SIGN /II/UU/AAI/AU/AAU
AAF0 MEETEI MAYEK /CHEIKHAN/AHANG KHUDAM/ANJI/SYLLABLE REPETITION MARK/WORD REPETITION MARK
AAF5 MEETEI MAYEK /VOWEL SIGN VISARGA/VIRAMA
AB01 ETHIOPIC SYLLABLE /TTHU/TTHI/TTHAA/TTHEE/TTHE/TTHO
AB09 ETHIOPIC SYLLABLE /DDHU/DDHI/DDHAA/DDHEE/DDHE/DDHO
AB11 ETHIOPIC SYLLABLE /DZU/DZI/DZAA/DZEE/DZE/DZO
AB20 ETHIOPIC SYLLABLE /CCHHA/CCHHU/CCHHI/CCHHAA/CCHHEE/CCHHE/CCHHO
AB28 ETHIOPIC SYLLABLE /BBA/BBU/BBI/BBAA/BBEE/BBE/BBO
AB30 LATIN SMALL LETTER /BARRED ALPHA/A REVERSED-SCHWA/BLACKLETTER E/BARRED E/E WITH FLOURISH
AB35 LATIN SMALL LETTER /LENIS F/SCRIPT G WITH CROSSED-TAIL
AB37 LATIN SMALL LETTER L WITH /INVERTED LAZY S/DOUBLE MIDDLE TILDE/MIDDLE RING
AB3A LATIN SMALL LETTER /M WITH CROSSED-TAIL/N WITH CROSSED-TAIL/ENG WITH CROSSED-TAIL
AB3D LATIN SMALL LETTER /BLACKLETTER O/BLACKLETTER O WITH STROKE/OPEN O WITH STROKE/INVERTED OE
AB41 LATIN SMALL LETTER TURNED OE WITH /STROKE/HORIZONTAL STROKE
AB43 LATIN SMALL LETTER TURNED O OPEN-/O/O WITH STROKE
AB45 LATIN /SMALL LETTER STIRRUP R/LETTER SMALL CAPITAL R WITH RIGHT LEG
AB47 LATIN SMALL LETTER /R WITHOUT HANDLE/DOUBLE R/R WITH CROSSED-TAIL/DOUBLE R WITH CROSSED-TAIL
AB4B LATIN SMALL LETTER /SCRIPT R/SCRIPT R WITH RING/BASELINE ESH/U WITH SHORT RIGHT LEG
AB4F LATIN SMALL LETTER /U BAR WITH SHORT RIGHT LEG/UI/TURNED UI/U WITH LEFT HOOK/CHI
AB54 LATIN SMALL LETTER /CHI WITH LOW RIGHT RING/CHI WITH LOW LEFT SERIF/X WITH LOW RIGHT RING
AB57 LATIN SMALL LETTER X WITH LONG LEFT /LEG/LEG AND LOW RIGHT RING/LEG WITH SERIF
AB5A /LATIN SMALL LETTER Y WITH SHORT RIGHT LEG/MODIFIER BREVE WITH INVERTED BREVE
AB5C MODIFIER LETTER SMALL /HENG/L WITH INVERTED LAZY S/L WITH MIDDLE TILDE/U WITH LEFT HOOK
AB60 LATIN SMALL LETTER /SAKHA YAT/IOTIFIED E/OPEN OE/UO/INVERTED ALPHA
AB65 /GREEK LETTER SMALL CAPITAL OMEGA/LATIN SMALL LETTER DZ DIGRAPH WITH RETROFLEX HOOK
AB67 LATIN SMALL LETTER /TS DIGRAPH WITH RETROFLEX HOOK/TURNED R WITH MIDDLE TILDE
AB69 MODIFIER LETTER /SMALL TURNED W/LEFT TACK/RIGHT TACK
AB70 CHEROKEE SMALL LETTER /A/E/I/O/U/V/GA/KA/GE/GI/GO/GU/GV/HA/HE/HI/HO/HU/HV/LA/LE/LI/LO/LU/LV/MA
AB8A CHEROKEE SMALL LETTER /ME/MI/MO/MU/NA/HNA/NAH/NE/NI/NO/NU/NV/QUA/QUE/QUI/QUO/QUU/QUV/SA/S/SE
AB9F CHEROKEE SMALL LETTER /SI/SO/SU/SV/DA/TA/DE/TE/DI/TI/DO/DU/DV/DLA/TLA/TLE/TLI/TLO/TLU/TLV/TSA
ABB4 CHEROKEE SMALL LETTER /TSE/TSI/TSO/TSU/TSV/WA/WE/WI/WO/WU/WV/YA
ABC0 MEETEI MAYEK LETTER /KOK/SAM/LAI/MIT/PA/NA/CHIL/TIL/KHOU/NGOU/THOU/WAI/YANG/HUK/UN/I/PHAM
ABD1 MEETEI MAYEK LETTER /ATIYA/GOK/JHAM/RAI/BA/JIL/DIL/GHOU/DHOU/BHAM/KOK LONSUM/LAI LONSUM
ABDD MEETEI MAYEK LETTER /MIT LONSUM/PA LONSUM/NA LONSUM/TIL LONSUM/NGOU LONSUM/I LONSUM
ABE3 MEETEI MAYEK VOWEL SIGN /ONAP/INAP/ANAP/YENAP/SOUNAP/UNAP/CHEINAP/NUNG
ABEB MEETEI MAYEK /CHEIKHEI/LUM IYEK/APUN IYEK
ABF0 MEETEI MAYEK DIGIT /ZERO/ONE/TWO/THREE/FOUR/FIVE/SIX/SEVEN/EIGHT/NINE"

end NoteSchema.Text.CharName
