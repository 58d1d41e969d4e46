namespace NoteSchema.Text.CharName

/-- Notations of music, mathematics and signs, and supplements of several scripts. -/
def notations : String :=
"18800 TANGUT COMPONENT-/001/002/003/004/005/006/007/008/009/010/011/012/013/014/015/016/017/018/019
18813 TANGUT COMPONENT-/020/021/022/023/024/025/026/027/028/029/030/031/032/033/034/035/036/037/038
18826 TANGUT COMPONENT-/039/040/041/042/043/044/045/046/047/048/049/050/051/052/053/054/055/056/057
18839 TANGUT COMPONENT-/058/059/060/061/062/063/064/065/066/067/068/069/070/071/072/073/074/075/076
1884C TANGUT COMPONENT-/077/078/079/080/081/082/083/084/085/086/087/088/089/090/091/092/093/094/095
1885F TANGUT COMPONENT-/096/097/098/099/100/101/102/103/104/105/106/107/108/109/110/111/112/113/114
18872 TANGUT COMPONENT-/115/116/117/118/119/120/121/122/123/124/125/126/127/128/129/130/131/132/133
18885 TANGUT COMPONENT-/134/135/136/137/138/139/140/141/142/143/144/145/146/147/148/149/150/151/152
18898 TANGUT COMPONENT-/153/154/155/156/157/158/159/160/161/162/163/164/165/166/167/168/169/170/171
188AB TANGUT COMPONENT-/172/173/174/175/176/177/178/179/180/181/182/183/184/185/186/187/188/189/190
188BE TANGUT COMPONENT-/191/192/193/194/195/196/197/198/199/200/201/202/203/204/205/206/207/208/209
188D1 TANGUT COMPONENT-/210/211/212/213/214/215/216/217/218/219/220/221/222/223/224/225/226/227/228
188E4 TANGUT COMPONENT-/229/230/231/232/233/234/235/236/237/238/239/240/241/242/243/244/245/246/247
188F7 TANGUT COMPONENT-/248/249/250/251/252/253/254/255/256/257/258/259/260/261/262/263/264/265/266
1890A TANGUT COMPONENT-/267/268/269/270/271/272/273/274/275/276/277/278/279/280/281/282/283/284/285
1891D TANGUT COMPONENT-/286/287/288/289/290/291/292/293/294/295/296/297/298/299/300/301/302/303/304
18930 TANGUT COMPONENT-/305/306/307/308/309/310/311/312/313/314/315/316/317/318/319/320/321/322/323
18943 TANGUT COMPONENT-/324/325/326/327/328/329/330/331/332/333/334/335/336/337/338/339/340/341/342
18956 TANGUT COMPONENT-/343/344/345/346/347/348/349/350/351/352/353/354/355/356/357/358/359/360/361
18969 TANGUT COMPONENT-/362/363/364/365/366/367/368/369/370/371/372/373/374/375/376/377/378/379/380
1897C TANGUT COMPONENT-/381/382/383/384/385/386/387/388/389/390/391/392/393/394/395/396/397/398/399
1898F TANGUT COMPONENT-/400/401/402/403/404/405/406/407/408/409/410/411/412/413/414/415/416/417/418
189A2 TANGUT COMPONENT-/419/420/421/422/423/424/425/426/427/428/429/430/431/432/433/434/435/436/437
189B5 TANGUT COMPONENT-/438/439/440/441/442/443/444/445/446/447/448/449/450/451/452/453/454/455/456
189C8 TANGUT COMPONENT-/457/458/459/460/461/462/463/464/465/466/467/468/469/470/471/472/473/474/475
189DB TANGUT COMPONENT-/476/477/478/479/480/481/482/483/484/485/486/487/488/489/490/491/492/493/494
189EE TANGUT COMPONENT-/495/496/497/498/499/500/501/502/503/504/505/506/507/508/509/510/511/512/513
18A01 TANGUT COMPONENT-/514/515/516/517/518/519/520/521/522/523/524/525/526/527/528/529/530/531/532
18A14 TANGUT COMPONENT-/533/534/535/536/537/538/539/540/541/542/543/544/545/546/547/548/549/550/551
18A27 TANGUT COMPONENT-/552/553/554/555/556/557/558/559/560/561/562/563/564/565/566/567/568/569/570
18A3A TANGUT COMPONENT-/571/572/573/574/575/576/577/578/579/580/581/582/583/584/585/586/587/588/589
18A4D TANGUT COMPONENT-/590/591/592/593/594/595/596/597/598/599/600/601/602/603/604/605/606/607/608
18A60 TANGUT COMPONENT-/609/610/611/612/613/614/615/616/617/618/619/620/621/622/623/624/625/626/627
18A73 TANGUT COMPONENT-/628/629/630/631/632/633/634/635/636/637/638/639/640/641/642/643/644/645/646
18A86 TANGUT COMPONENT-/647/648/649/650/651/652/653/654/655/656/657/658/659/660/661/662/663/664/665
18A99 TANGUT COMPONENT-/666/667/668/669/670/671/672/673/674/675/676/677/678/679/680/681/682/683/684
18AAC TANGUT COMPONENT-/685/686/687/688/689/690/691/692/693/694/695/696/697/698/699/700/701/702/703
18ABF TANGUT COMPONENT-/704/705/706/707/708/709/710/711/712/713/714/715/716/717/718/719/720/721/722
18AD2 TANGUT COMPONENT-/723/724/725/726/727/728/729/730/731/732/733/734/735/736/737/738/739/740/741
18AE5 TANGUT COMPONENT-/742/743/744/745/746/747/748/749/750/751/752/753/754/755/756/757/758/759/760
18AF8 TANGUT COMPONENT-/761/762/763/764/765/766/767/768
1AFF0 KATAKANA LETTER MINNAN TONE-/2/3/4/5
1AFF5 KATAKANA LETTER MINNAN TONE-/7/8
1AFF7 KATAKANA LETTER MINNAN NASALIZED TONE-/1/2/3/4/5
1AFFD KATAKANA LETTER MINNAN NASALIZED TONE-/7/8
1B000 /KATAKANA LETTER ARCHAIC E/HIRAGANA LETTER ARCHAIC YE
1B002 HENTAIGANA LETTER A-/1/2/3/WO
1B006 HENTAIGANA LETTER /I-1/I-2/I-3/I-4/U-1/U-2/U-3/U-4/U-5/E-2/E-3/E-4/E-5/E-6/O-1/O-2/O-3
1B017 HENTAIGANA LETTER KA-/1/2/3/4/5/6/7/8/9/10/11/KE
1B023 HENTAIGANA LETTER KI-/1/2/3/4/5/6/7/8
1B02B HENTAIGANA LETTER KU-/1/2/3/4/5/6/7
1B032 HENTAIGANA LETTER /KE-1/KE-2/KE-3/KE-4/KE-5/KE-6/KO-1/KO-2/KO-3/KO-KI
1B03C HENTAIGANA LETTER SA-/1/2/3/4/5/6/7/8
1B044 HENTAIGANA LETTER SI-/1/2/3/4/5/6
1B04A HENTAIGANA LETTER SU-/1/2/3/4/5/6/7/8
1B052 HENTAIGANA LETTER /SE-1/SE-2/SE-3/SE-4/SE-5/SO-1/SO-2/SO-3/SO-4/SO-5/SO-6/SO-7/TA-1/TA-2/TA-3
1B061 HENTAIGANA LETTER /TA-4/TI-1/TI-2/TI-3/TI-4/TI-5/TI-6/TI-7/TU-1/TU-2/TU-3/TU-4/TU-TO
1B06E HENTAIGANA LETTER TE-/1/2/3/4/5/6/7/8/9
1B077 HENTAIGANA LETTER TO-/1/2/3/4/5/6/RA
1B07E HENTAIGANA LETTER NA-/1/2/3/4/5/6/7/8/9
1B087 HENTAIGANA LETTER NI-/1/2/3/4/5/6/7/TE
1B08F HENTAIGANA LETTER /NU-1/NU-2/NU-3/NE-1/NE-2/NE-3/NE-4/NE-5/NE-6/NE-KO
1B099 HENTAIGANA LETTER NO-/1/2/3/4/5
1B09E HENTAIGANA LETTER HA-/1/2/3/4/5/6/7/8/9/10/11
1B0A9 HENTAIGANA LETTER /HI-1/HI-2/HI-3/HI-4/HI-5/HI-6/HI-7/HU-1/HU-2/HU-3
1B0B3 HENTAIGANA LETTER HE-/1/2/3/4/5/6/7
1B0BA HENTAIGANA LETTER HO-/1/2/3/4/5/6/7/8
1B0C2 HENTAIGANA LETTER MA-/1/2/3/4/5/6/7
1B0C9 HENTAIGANA LETTER MI-/1/2/3/4/5/6/7
1B0D0 HENTAIGANA LETTER /MU-1/MU-2/MU-3/MU-4/ME-1/ME-2/ME-MA/MO-1/MO-2/MO-3/MO-4/MO-5/MO-6
1B0DD HENTAIGANA LETTER YA-/1/2/3/4/5/YO
1B0E3 HENTAIGANA LETTER /YU-1/YU-2/YU-3/YU-4/YO-1/YO-2/YO-3/YO-4/YO-5/YO-6/RA-1/RA-2/RA-3/RA-4
1B0F1 HENTAIGANA LETTER RI-/1/2/3/4/5/6/7
1B0F8 HENTAIGANA LETTER RU-/1/2/3/4/5/6
1B0FE HENTAIGANA LETTER /RE-1/RE-2/RE-3/RE-4/RO-1/RO-2/RO-3/RO-4/RO-5/RO-6/WA-1/WA-2/WA-3/WA-4/WA-5
1B10D HENTAIGANA LETTER WI-/1/2/3/4/5
1B112 HENTAIGANA LETTER /WE-1/WE-2/WE-3/WE-4/WO-1/WO-2/WO-3/WO-4/WO-5/WO-6/WO-7/N-MU-MO-1/N-MU-MO-2
1B11F /HIRAGANA LETTER ARCHAIC WU
1B120 KATAKANA LETTER ARCHAIC /YI/YE/WU
1B150 HIRAGANA LETTER SMALL /WI/WE/WO
1B164 KATAKANA LETTER SMALL /WI/WE/WO/N
1BC00 DUPLOYAN LETTER /H/X/P/T/F/K/L/B/D/V/G/R/P N/D S/F N/K M/R S/TH/SLOAN DH/DH/KK/SLOAN J/HL/LH
1BC18 DUPLOYAN LETTER /RH/M/N/J/S/M N/N M/J M/S J/M WITH DOT/N WITH DOT/J WITH DOT
1BC24 DUPLOYAN LETTER /J WITH DOTS INSIDE AND ABOVE/S WITH DOT/S WITH DOT BELOW/M S/N S/J S/S S
1BC2B DUPLOYAN LETTER /M N S/N M S/J M S/S J S/J S WITH DOT/J N/J N S/S T/S T R/S P/S P R/T S/T R S
1BC38 DUPLOYAN LETTER /W/WH/W R/S N/S M/K R S/G R S/S K/S K R/A/SLOAN OW/OA/O/AOU/I/E/IE/SHORT I/UI
1BC4B DUPLOYAN LETTER /EE/SLOAN EH/ROMANIAN I/SLOAN EE/LONG I/YE/U/EU/XW/U N/LONG U/ROMANIAN U/UH
1BC58 DUPLOYAN LETTER /SLOAN U/OOH/OW/OU/WA/WO/WI/WEI/WOW/NASAL U/NASAL O/NASAL I/NASAL A/PERNIN AN
1BC66 DUPLOYAN LETTER /PERNIN AM/SLOAN EN/SLOAN AN/SLOAN ON/VOCALIC M
1BC70 DUPLOYAN AFFIX /LEFT HORIZONTAL SECANT/MID HORIZONTAL SECANT/RIGHT HORIZONTAL SECANT
1BC73 DUPLOYAN AFFIX /LOW VERTICAL SECANT/MID VERTICAL SECANT/HIGH VERTICAL SECANT
1BC76 DUPLOYAN AFFIX ATTACHED /SECANT/LEFT-TO-RIGHT SECANT/TANGENT/TAIL/E HOOK/I HOOK/TANGENT HOOK
1BC80 DUPLOYAN AFFIX HIGH /ACUTE/TIGHT ACUTE/GRAVE/LONG GRAVE/DOT/CIRCLE/LINE/WAVE/VERTICAL
1BC90 DUPLOYAN AFFIX LOW /ACUTE/TIGHT ACUTE/GRAVE/LONG GRAVE/DOT/CIRCLE/LINE/WAVE/VERTICAL/ARROW
1BC9C DUPLOYAN /SIGN O WITH CROSS/THICK LETTER SELECTOR/DOUBLE MARK/PUNCTUATION CHINOOK FULL STOP
1BCA0 SHORTHAND FORMAT /LETTER OVERLAP/CONTINUING OVERLAP/DOWN STEP/UP STEP
1CF00 ZNAMENNY COMBINING MARK /GORAZDO NIZKO S KRYZHEM ON LEFT/NIZKO S KRYZHEM ON LEFT
1CF02 ZNAMENNY COMBINING MARK /TSATA ON LEFT/GORAZDO NIZKO ON LEFT/NIZKO ON LEFT/SREDNE ON LEFT
1CF06 ZNAMENNY COMBINING MARK /MALO POVYSHE ON LEFT/POVYSHE ON LEFT/VYSOKO ON LEFT
1CF09 ZNAMENNY COMBINING MARK /MALO POVYSHE S KHOKHLOM ON LEFT/POVYSHE S KHOKHLOM ON LEFT
1CF0B ZNAMENNY COMBINING MARK /VYSOKO S KHOKHLOM ON LEFT/GORAZDO NIZKO S KRYZHEM ON RIGHT
1CF0D ZNAMENNY COMBINING MARK /NIZKO S KRYZHEM ON RIGHT/TSATA ON RIGHT/GORAZDO NIZKO ON RIGHT
1CF10 ZNAMENNY COMBINING MARK /NIZKO ON RIGHT/SREDNE ON RIGHT/MALO POVYSHE ON RIGHT
1CF13 ZNAMENNY COMBINING MARK /POVYSHE ON RIGHT/VYSOKO ON RIGHT/MALO POVYSHE S KHOKHLOM ON RIGHT
1CF16 ZNAMENNY COMBINING MARK /POVYSHE S KHOKHLOM ON RIGHT/VYSOKO S KHOKHLOM ON RIGHT
1CF18 ZNAMENNY COMBINING MARK /TSATA S KRYZHEM/MALO POVYSHE S KRYZHEM/STRANNO MALO POVYSHE
1CF1B ZNAMENNY COMBINING MARK POVYSHE /S KRYZHEM/STRANNO
1CF1D ZNAMENNY COMBINING MARK /VYSOKO S KRYZHEM/MALO POVYSHE STRANNO/GORAZDO VYSOKO/ZELO/ON/RAVNO
1CF23 ZNAMENNY COMBINING MARK /TIKHAYA/BORZAYA/UDARKA/PODVERTKA/LOMKA/KUPNAYA/KACHKA/ZEVOK/SKOBA
1CF2C ZNAMENNY COMBINING MARK /RAZSEKA/KRYZH ON LEFT
1CF30 ZNAMENNY COMBINING TONAL RANGE MARK /MRACHNO/SVETLO/TRESVETLO
1CF33 ZNAMENNY COMBINING MARK /ZADERZHKA/DEMESTVENNY ZADERZHKA/OTSECHKA/PODCHASHIE
1CF37 ZNAMENNY COMBINING MARK /PODCHASHIE WITH VERTICAL STROKE/CHASHKA/CHASHKA POLNAYA/OBLACHKO
1CF3B ZNAMENNY COMBINING /MARK SOROCHYA NOZHKA/MARK TOCHKA/MARK DVOETOCHIE/ATTACHING VERTICAL OMET
1CF3F ZNAMENNY COMBINING /MARK CURVED OMET/MARK KRYZH/LOWER TONAL RANGE INDICATOR
1CF42 ZNAMENNY PRIZNAK MODIFIER /LEVEL-2/LEVEL-3/DIRECTION FLIP/KRYZH/ROG
1CF50 ZNAMENNY NEUME /KRYUK/KRYUK TIKHY/PARAKLIT/DVA V CHELNU/KLYUCH/ZANOZHEK/STOPITSA
1CF57 ZNAMENNY NEUME /STOPITSA S OCHKOM/PEREVODKA/PEREVODKA NEPOSTOYANNAYA
1CF5A ZNAMENNY NEUME /STOPITSA WITH SOROCHYA NOZHKA/CHELYUSTKA/PALKA/ZAPYATAYA
1CF5E ZNAMENNY NEUME GOLUBCHIK /BORZY/TIKHY/MRACHNY/SVETLY/TRESVETLY
1CF63 ZNAMENNY NEUME VRAKHIYA /PROSTAYA/MRACHNAYA/SVETLAYA/TRESVETLAYA
1CF67 ZNAMENNY NEUME VRAKHIYA KLYUCHEVAYA /PROSTAYA/MRACHNAYA/SVETLAYA/TRESVETLAYA
1CF6B ZNAMENNY NEUME /DOUBLE ZAPYATAYA/REVERSED CHELYUSTKA/DERBITSA/KHAMILO/CHASHKA/PODCHASHIE
1CF71 ZNAMENNY NEUME SKAMEYTSA /MRACHNAYA/SVETLAYA/TRESVETLAYA/TIKHAYA
1CF75 /ZNAMENNY NEUME DEMESTVENNY KLYUCH
1CF76 ZNAMENNY NEUME SKAMEYTSA /KLYUCHEVAYA SVETLAYA/KLYUCHENEPOSTOYANNAYA/KLYUCHEVAYA TIKHAYA
1CF79 ZNAMENNY NEUME SKAMEYTSA DVOECHELNAYA /PROSTAYA/SVETLAYA/NEPOSTOYANNAYA/KLYUCHEVAYA
1CF7D ZNAMENNY NEUME /SLOZHITIE/SLOZHITIE S ZAPYATOY/SLOZHITIE ZAKRYTOE/SLOZHITIE S KRYZHEM/KRYZH
1CF82 ZNAMENNY NEUME /ROG/FITA/KOBYLA/ZMEYTSA/STATYA
1CF87 ZNAMENNY NEUME STATYA S /ZAPYATOY/KRYZHEM/ZAPYATOY I KRYZHEM/KRYZHEM I ZAPYATOY
1CF8B ZNAMENNY NEUME STATYA /ZAKRYTAYA/ZAKRYTAYA S ZAPYATOY/S ROGOM/S DVUMYA ZAPYATYMI
1CF8F ZNAMENNY NEUME /STATYA S ZAPYATOY I PODCHASHIEM/POLKULIZMY/STATYA NEPOSTOYANNAYA
1CF92 ZNAMENNY NEUME STRELA /PROSTAYA/MRACHNOTIKHAYA/KRYZHEVAYA/POLUPOVODNAYA/POVODNAYA
1CF97 ZNAMENNY NEUME STRELA /NEPOSTOYANNAYA/KLYUCHEPOVODNAYA/KLYUCHENEPOSTOYANNAYA/TIKHAYA PUTNAYA
1CF9B ZNAMENNY NEUME STRELA /DVOECHELNAYA/DVOECHELNOKRYZHEVAYA/DVOECHELNOPOVODNAYA
1CF9E ZNAMENNY NEUME STRELA /DVOECHELNAYA KLYUCHEVAYA/DVOECHELNOPOVODNAYA KLYUCHEVAYA
1CFA0 ZNAMENNY NEUME STRELA /GROMNAYA WITH SINGLE ZAPYATAYA/GROMOPOVODNAYA WITH SINGLE ZAPYATAYA
1CFA2 ZNAMENNY NEUME STRELA /GROMNAYA/GROMOPOVODNAYA/GROMOPOVODNAYA WITH DOUBLE ZAPYATAYA
1CFA5 ZNAMENNY NEUME /STRELA GROMOKRYZHEVAYA/STRELA GROMOKRYZHEVAYA POVODNAYA/MECHIK
1CFA8 ZNAMENNY NEUME MECHIK /POVODNY/KLYUCHEVOY/KLYUCHEPOVODNY/KLYUCHENEPOSTOYANNY
1CFAC ZNAMENNY NEUME /STRELA TRYASOGLASNAYA/STRELA TRYASOPOVODNAYA/STRELA TRYASOSTRELNAYA/OSOKA
1CFB0 ZNAMENNY NEUME OSOKA /SVETLAYA/TRESVETLAYA/KRYUKOVAYA SVETLAYA/KLYUCHEVAYA SVETLAYA
1CFB4 ZNAMENNY NEUME /OSOKA KLYUCHEVAYA NEPOSTOYANNAYA/STRELA KRYUKOVAYA
1CFB6 ZNAMENNY NEUME STRELA KRYUKOVAYA /POVODNAYA/GROMNAYA WITH SINGLE ZAPYATAYA
1CFB8 ZNAMENNY NEUME STRELA KRYUKOVAYA /GROMOPOVODNAYA WITH SINGLE ZAPYATAYA/GROMNAYA
1CFBA ZNAMENNY NEUME STRELA KRYUKOVAYA /GROMOPOVODNAYA/GROMOPOVODNAYA WITH DOUBLE ZAPYATAYA
1CFBC ZNAMENNY NEUME STRELA KRYUKOVAYA /GROMOKRYZHEVAYA/GROMOKRYZHEVAYA POVODNAYA/TRYASKA
1CFBF ZNAMENNY NEUME /KUFISMA/OBLAKO/DUDA/NEMKA/PAUK
1D000 BYZANTINE MUSICAL SYMBOL /PSILI/DASEIA/PERISPOMENI/OXEIA EKFONITIKON/OXEIA DIPLI
1D005 BYZANTINE MUSICAL SYMBOL /VAREIA EKFONITIKON/VAREIA DIPLI/KATHISTI/SYRMATIKI/PARAKLITIKI
1D00A BYZANTINE MUSICAL SYMBOL /YPOKRISIS/YPOKRISIS DIPLI/KREMASTI/APESO EKFONITIKON
1D00E BYZANTINE MUSICAL SYMBOL /EXO EKFONITIKON/TELEIA/KENTIMATA/APOSTROFOS/APOSTROFOS DIPLI
1D013 BYZANTINE MUSICAL SYMBOL /SYNEVMA/THITA/OLIGON ARCHAION/GORGON ARCHAION/PSILON/CHAMILON/VATHY
1D01A BYZANTINE MUSICAL SYMBOL /ISON ARCHAION/KENTIMA ARCHAION/KENTIMATA ARCHAION/SAXIMATA/PARICHON
1D01F BYZANTINE MUSICAL SYMBOL /STAVROS APODEXIA/OXEIAI ARCHAION/VAREIAI ARCHAION/APODERMA ARCHAION
1D023 BYZANTINE MUSICAL SYMBOL /APOTHEMA/KLASMA/REVMA/PIASMA ARCHAION/TINAGMA/ANATRICHISMA/SEISMA
1D02A BYZANTINE MUSICAL SYMBOL /SYNAGMA ARCHAION/SYNAGMA META STAVROU/OYRANISMA ARCHAION/THEMA
1D02E BYZANTINE MUSICAL SYMBOL /LEMOI/DYO/TRIA/TESSERA/KRATIMATA/APESO EXO NEO/FTHORA ARCHAION
1D035 BYZANTINE MUSICAL SYMBOL /IMIFTHORA/TROMIKON ARCHAION/KATAVA TROMIKON/PELASTON/PSIFISTON
1D03A BYZANTINE MUSICAL SYMBOL /KONTEVMA/CHOREVMA ARCHAION/RAPISMA/PARAKALESMA ARCHAION
1D03E BYZANTINE MUSICAL SYMBOL /PARAKLITIKI ARCHAION/ICHADIN/NANA/PETASMA/KONTEVMA ALLO
1D043 BYZANTINE MUSICAL SYMBOL /TROMIKON ALLO/STRAGGISMATA/GRONTHISMATA/ISON NEO/OLIGON NEO
1D048 BYZANTINE MUSICAL SYMBOL /OXEIA NEO/PETASTI/KOUFISMA/PETASTOKOUFISMA/KRATIMOKOUFISMA
1D04D BYZANTINE MUSICAL SYMBOL /PELASTON NEO/KENTIMATA NEO ANO/KENTIMA NEO ANO/YPSILI
1D051 BYZANTINE MUSICAL SYMBOL /APOSTROFOS NEO/APOSTROFOI SYNDESMOS NEO/YPORROI/KRATIMOYPORROON
1D055 BYZANTINE MUSICAL SYMBOL /ELAFRON/CHAMILI/MIKRON ISON/VAREIA NEO/PIASMA NEO/PSIFISTON NEO
1D05B BYZANTINE MUSICAL SYMBOL /OMALON/ANTIKENOMA/LYGISMA/PARAKLITIKI NEO/PARAKALESMA NEO
1D060 BYZANTINE MUSICAL SYMBOL /ETERON PARAKALESMA/KYLISMA/ANTIKENOKYLISMA/TROMIKON NEO/EKSTREPTON
1D065 BYZANTINE MUSICAL SYMBOL /SYNAGMA NEO/SYRMA/CHOREVMA NEO/EPEGERMA/SEISMA NEO/XIRON KLASMA
1D06B BYZANTINE MUSICAL SYMBOL /TROMIKOPSIFISTON/PSIFISTOLYGISMA/TROMIKOLYGISMA/TROMIKOPARAKALESMA
1D06F BYZANTINE MUSICAL SYMBOL /PSIFISTOPARAKALESMA/TROMIKOSYNAGMA/PSIFISTOSYNAGMA/GORGOSYNTHETON
1D073 BYZANTINE MUSICAL SYMBOL /ARGOSYNTHETON/ETERON ARGOSYNTHETON/OYRANISMA NEO/THEMATISMOS ESO
1D077 BYZANTINE MUSICAL SYMBOL /THEMATISMOS EXO/THEMA APLOUN/THES KAI APOTHES/KATAVASMA/ENDOFONON
1D07C BYZANTINE MUSICAL SYMBOL /YFEN KATO/YFEN ANO/STAVROS/KLASMA ANO/DIPLI ARCHAION
1D081 BYZANTINE MUSICAL SYMBOL KRATIMA /ARCHAION/ALLO/NEO
1D084 BYZANTINE MUSICAL SYMBOL /APODERMA NEO/APLI/DIPLI/TRIPLI/TETRAPLI/KORONIS/LEIMMA ENOS CHRONOU
1D08B BYZANTINE MUSICAL SYMBOL LEIMMA /DYO CHRONON/TRION CHRONON/TESSARON CHRONON/IMISEOS CHRONOU
1D08F BYZANTINE MUSICAL SYMBOL GORGON /NEO ANO/PARESTIGMENON ARISTERA/PARESTIGMENON DEXIA
1D092 /BYZANTINE MUSICAL SYMBOL DIGORGON
1D093 BYZANTINE MUSICAL SYMBOL DIGORGON PARESTIGMENON /ARISTERA KATO/ARISTERA ANO/DEXIA
1D096 BYZANTINE MUSICAL SYMBOL /TRIGORGON/ARGON/IMIDIARGON/DIARGON/AGOGI POLI ARGI
1D09B BYZANTINE MUSICAL SYMBOL AGOGI /ARGOTERI/ARGI/METRIA/MESI/GORGI/GORGOTERI/POLI GORGI
1D0A2 BYZANTINE MUSICAL SYMBOL MARTYRIA /PROTOS ICHOS/ALLI PROTOS ICHOS/DEYTEROS ICHOS
1D0A5 BYZANTINE MUSICAL SYMBOL MARTYRIA /ALLI DEYTEROS ICHOS/TRITOS ICHOS/TRIFONIAS/TETARTOS ICHOS
1D0A9 BYZANTINE MUSICAL SYMBOL MARTYRIA /TETARTOS LEGETOS ICHOS/LEGETOS ICHOS/PLAGIOS ICHOS
1D0AC BYZANTINE MUSICAL SYMBOL /ISAKIA TELOUS ICHIMATOS/APOSTROFOI TELOUS ICHIMATOS
1D0AE BYZANTINE MUSICAL SYMBOL FANEROSIS /TETRAFONIAS/MONOFONIAS/DIFONIAS
1D0B1 BYZANTINE MUSICAL SYMBOL MARTYRIA /VARYS ICHOS/PROTOVARYS ICHOS/PLAGIOS TETARTOS ICHOS
1D0B4 BYZANTINE MUSICAL SYMBOL GORTHMIKON N /APLOUN/DIPLOUN
1D0B6 BYZANTINE MUSICAL SYMBOL /ENARXIS KAI FTHORA VOU/IMIFONON/IMIFTHORON
1D0B9 BYZANTINE MUSICAL SYMBOL FTHORA /ARCHAION DEYTEROU ICHOU/DIATONIKI PA/DIATONIKI NANA
1D0BC BYZANTINE MUSICAL SYMBOL FTHORA /NAOS ICHOS/DIATONIKI DI/SKLIRON DIATONON DI
1D0BF BYZANTINE MUSICAL SYMBOL FTHORA DIATONIKI /KE/ZO/NI KATO/NI ANO
1D0C3 BYZANTINE MUSICAL SYMBOL FTHORA MALAKON CHROMA /DIFONIAS/MONOFONIAS
1D0C5 BYZANTINE MUSICAL SYMBOL /FHTORA SKLIRON CHROMA VASIS/FTHORA SKLIRON CHROMA SYNAFI
1D0C7 BYZANTINE MUSICAL SYMBOL /FTHORA NENANO/CHROA ZYGOS/CHROA KLITON/CHROA SPATHI
1D0CB BYZANTINE MUSICAL SYMBOL FTHORA /I YFESIS TETARTIMORION/ENARMONIOS ANTIFONIA
1D0CD BYZANTINE MUSICAL SYMBOL /YFESIS TRITIMORION/DIESIS TRITIMORION
1D0CF BYZANTINE MUSICAL SYMBOL DIESIS /TETARTIMORION/APLI DYO DODEKATA/MONOGRAMMOS TESSERA DODEKATA
1D0D2 BYZANTINE MUSICAL SYMBOL DIESIS /DIGRAMMOS EX DODEKATA/TRIGRAMMOS OKTO DODEKATA
1D0D4 BYZANTINE MUSICAL SYMBOL YFESIS /APLI DYO DODEKATA/MONOGRAMMOS TESSERA DODEKATA
1D0D6 BYZANTINE MUSICAL SYMBOL YFESIS /DIGRAMMOS EX DODEKATA/TRIGRAMMOS OKTO DODEKATA
1D0D8 BYZANTINE MUSICAL SYMBOL GENIKI /DIESIS/YFESIS
1D0DA BYZANTINE MUSICAL SYMBOL DIASTOLI /APLI MIKRI/APLI MEGALI/DIPLI/THESEOS
1D0DE BYZANTINE MUSICAL SYMBOL SIMANSIS /THESEOS/THESEOS DISIMOU/THESEOS TRISIMOU
1D0E1 BYZANTINE MUSICAL SYMBOL SIMANSIS /THESEOS TETRASIMOU/ARSEOS/ARSEOS DISIMOU/ARSEOS TRISIMOU
1D0E5 BYZANTINE MUSICAL SYMBOL /SIMANSIS ARSEOS TETRASIMOU/DIGRAMMA GG/DIFTOGGOS OU/STIGMA
1D0E9 BYZANTINE MUSICAL SYMBOL ARKTIKO /PA/VOU/GA/DI/KE/ZO/NI
1D0F0 BYZANTINE MUSICAL SYMBOL /KENTIMATA NEO MESO/KENTIMA NEO MESO/KENTIMATA NEO KATO
1D0F3 BYZANTINE MUSICAL SYMBOL /KENTIMA NEO KATO/KLASMA KATO/GORGON NEO KATO
1D100 MUSICAL SYMBOL /SINGLE BARLINE/DOUBLE BARLINE/FINAL BARLINE/REVERSE FINAL BARLINE
1D104 MUSICAL SYMBOL /DASHED BARLINE/SHORT BARLINE/LEFT REPEAT SIGN/RIGHT REPEAT SIGN/REPEAT DOTS
1D109 MUSICAL SYMBOL /DAL SEGNO/DA CAPO/SEGNO/CODA
1D10D MUSICAL SYMBOL REPEATED FIGURE-/1/2/3
1D110 MUSICAL SYMBOL /FERMATA/FERMATA BELOW/BREATH MARK/CAESURA/BRACE/BRACKET/ONE-LINE STAFF
1D117 MUSICAL SYMBOL /TWO-LINE STAFF/THREE-LINE STAFF/FOUR-LINE STAFF/FIVE-LINE STAFF
1D11B MUSICAL SYMBOL /SIX-LINE STAFF/SIX-STRING FRETBOARD/FOUR-STRING FRETBOARD/G CLEF
1D11F MUSICAL SYMBOL G CLEF OTTAVA /ALTA/BASSA
1D121 MUSICAL SYMBOL /C CLEF/F CLEF/F CLEF OTTAVA ALTA/F CLEF OTTAVA BASSA/DRUM CLEF-1/DRUM CLEF-2
1D129 MUSICAL SYMBOL /MULTIPLE MEASURE REST/DOUBLE SHARP/DOUBLE FLAT/FLAT UP/FLAT DOWN/NATURAL UP
1D12F MUSICAL SYMBOL /NATURAL DOWN/SHARP UP/SHARP DOWN/QUARTER TONE SHARP/QUARTER TONE FLAT
1D134 MUSICAL SYMBOL /COMMON TIME/CUT TIME/OTTAVA ALTA/OTTAVA BASSA/QUINDICESIMA ALTA
1D139 MUSICAL SYMBOL /QUINDICESIMA BASSA/MULTI REST/WHOLE REST/HALF REST/QUARTER REST/EIGHTH REST
1D13F MUSICAL SYMBOL /SIXTEENTH REST/THIRTY-SECOND REST/SIXTY-FOURTH REST
1D142 MUSICAL SYMBOL /ONE HUNDRED TWENTY-EIGHTH REST/X NOTEHEAD/PLUS NOTEHEAD/CIRCLE X NOTEHEAD
1D146 MUSICAL SYMBOL SQUARE NOTEHEAD /WHITE/BLACK
1D148 MUSICAL SYMBOL TRIANGLE NOTEHEAD /UP WHITE/UP BLACK/LEFT WHITE/LEFT BLACK/RIGHT WHITE
1D14D MUSICAL SYMBOL TRIANGLE NOTEHEAD /RIGHT BLACK/DOWN WHITE/DOWN BLACK
1D150 MUSICAL SYMBOL TRIANGLE NOTEHEAD UP RIGHT /WHITE/BLACK
1D152 MUSICAL SYMBOL MOON NOTEHEAD /WHITE/BLACK
1D154 MUSICAL SYMBOL TRIANGLE-ROUND NOTEHEAD DOWN /WHITE/BLACK
1D156 MUSICAL SYMBOL /PARENTHESIS NOTEHEAD/VOID NOTEHEAD/NOTEHEAD BLACK/NULL NOTEHEAD
1D15A MUSICAL SYMBOL CLUSTER NOTEHEAD /WHITE/BLACK
1D15C MUSICAL SYMBOL /BREVE/WHOLE NOTE/HALF NOTE/QUARTER NOTE/EIGHTH NOTE/SIXTEENTH NOTE
1D162 MUSICAL SYMBOL /THIRTY-SECOND NOTE/SIXTY-FOURTH NOTE/ONE HUNDRED TWENTY-EIGHTH NOTE
1D165 MUSICAL SYMBOL COMBINING /STEM/SPRECHGESANG STEM/TREMOLO-1/TREMOLO-2/TREMOLO-3
1D16A MUSICAL SYMBOL FINGERED TREMOLO-/1/2/3
1D16D MUSICAL SYMBOL COMBINING /AUGMENTATION DOT/FLAG-1/FLAG-2/FLAG-3/FLAG-4/FLAG-5
1D173 MUSICAL SYMBOL /BEGIN BEAM/END BEAM/BEGIN TIE/END TIE/BEGIN SLUR/END SLUR/BEGIN PHRASE
1D17A MUSICAL SYMBOL /END PHRASE/COMBINING ACCENT/COMBINING STACCATO
1D17D MUSICAL SYMBOL COMBINING /TENUTO/STACCATISSIMO/MARCATO/MARCATO-STACCATO/ACCENT-STACCATO/LOURE
1D183 MUSICAL SYMBOL ARPEGGIATO /UP/DOWN
1D185 MUSICAL SYMBOL COMBINING /DOIT/RIP/FLIP/SMEAR/BEND/DOUBLE TONGUE/TRIPLE TONGUE
1D18C MUSICAL SYMBOL /RINFORZANDO/SUBITO/Z/PIANO/MEZZO/FORTE/CRESCENDO/DECRESCENDO/GRACE NOTE SLASH
1D195 MUSICAL SYMBOL /GRACE NOTE NO SLASH/TR/TURN/INVERTED TURN/TURN SLASH/TURN UP
1D19B MUSICAL SYMBOL ORNAMENT STROKE-/1/2/3/4/5/6/7/8/9/10/11
1D1A6 MUSICAL SYMBOL /HAUPTSTIMME/NEBENSTIMME/END OF STIMME/DEGREE SLASH
1D1AA MUSICAL SYMBOL COMBINING /DOWN BOW/UP BOW/HARMONIC/SNAP PIZZICATO
1D1AE MUSICAL SYMBOL PEDAL /MARK/UP MARK
1D1B0 MUSICAL SYMBOL /HALF PEDAL MARK/GLISSANDO UP/GLISSANDO DOWN/WITH FINGERNAILS/DAMP/DAMP ALL
1D1B6 MUSICAL SYMBOL /MAXIMA/LONGA/BREVIS/SEMIBREVIS WHITE/SEMIBREVIS BLACK/MINIMA/MINIMA BLACK
1D1BD MUSICAL SYMBOL /SEMIMINIMA WHITE/SEMIMINIMA BLACK/FUSA WHITE/FUSA BLACK/LONGA PERFECTA REST
1D1C2 MUSICAL SYMBOL /LONGA IMPERFECTA REST/BREVIS REST/SEMIBREVIS REST/MINIMA REST/SEMIMINIMA REST
1D1C7 MUSICAL SYMBOL TEMPUS PERFECTUM CUM PROLATIONE /PERFECTA/IMPERFECTA/PERFECTA DIMINUTION-1
1D1CA MUSICAL SYMBOL TEMPUS IMPERFECTUM CUM PROLATIONE /PERFECTA/IMPERFECTA
1D1CC MUSICAL SYMBOL TEMPUS IMPERFECTUM CUM PROLATIONE IMPERFECTA DIMINUTION-/1/2/3
1D1CF MUSICAL SYMBOL /CROIX/GREGORIAN C CLEF/GREGORIAN F CLEF/SQUARE B/VIRGA/PODATUS/CLIVIS
1D1D6 MUSICAL SYMBOL /SCANDICUS/CLIMACUS/TORCULUS/PORRECTUS/PORRECTUS FLEXUS/SCANDICUS FLEXUS
1D1DC MUSICAL SYMBOL /TORCULUS RESUPINUS/PES SUBPUNCTIS
1D1DE MUSICAL SYMBOL KIEVAN /C CLEF/END OF PIECE/FINAL NOTE/RECITATIVE MARK/WHOLE NOTE/HALF NOTE
1D1E4 MUSICAL SYMBOL KIEVAN QUARTER NOTE STEM /DOWN/UP
1D1E6 MUSICAL SYMBOL KIEVAN EIGHTH NOTE STEM /DOWN/UP
1D1E8 MUSICAL SYMBOL /KIEVAN FLAT SIGN/SORI/KORON
1D200 GREEK VOCAL NOTATION SYMBOL-/1/2/3/4/5/6/7/8/9/10/11/12/13/14/15/16/17/18/19/20/21/22/23/24
1D218 GREEK VOCAL NOTATION SYMBOL-/50/51/52/53/54
1D21D GREEK INSTRUMENTAL NOTATION SYMBOL-/1/2/4/5/7/8/11/12/13/14/17/18/19/23/24/25/26/27/29/30/32
1D232 GREEK INSTRUMENTAL NOTATION SYMBOL-/36/37/38/39/40/42/43/45/47/48/49/50/51/52/53/54
1D242 COMBINING GREEK MUSICAL /TRISEME/TETRASEME/PENTASEME
1D245 /GREEK MUSICAL LEIMMA
1D2E0 MAYAN NUMERAL /ZERO/ONE/TWO/THREE/FOUR/FIVE/SIX/SEVEN/EIGHT/NINE/TEN/ELEVEN/TWELVE/THIRTEEN
1D2EE MAYAN NUMERAL /FOURTEEN/FIFTEEN/SIXTEEN/SEVENTEEN/EIGHTEEN/NINETEEN
1D300 /MONOGRAM FOR EARTH
1D301 DIGRAM FOR /HEAVENLY EARTH/HUMAN EARTH/EARTHLY HEAVEN/EARTHLY HUMAN/EARTH
1D306 TETRAGRAM FOR /CENTRE/FULL CIRCLE/MIRED/BARRIER/KEEPING SMALL/CONTRARIETY/ASCENT/OPPOSITION
1D30E TETRAGRAM FOR /BRANCHING OUT/DEFECTIVENESS OR DISTORTION/DIVERGENCE/YOUTHFULNESS/INCREASE
1D313 TETRAGRAM FOR /PENETRATION/REACH/CONTACT/HOLDING BACK/WAITING/FOLLOWING/ADVANCE/RELEASE
1D31B TETRAGRAM FOR /RESISTANCE/EASE/JOY/CONTENTION/ENDEAVOUR/DUTIES/CHANGE/DECISIVENESS
1D323 TETRAGRAM FOR /BOLD RESOLUTION/PACKING/LEGION/CLOSENESS/KINSHIP/GATHERING/STRENGTH/PURITY
1D32B TETRAGRAM FOR /FULLNESS/RESIDENCE/LAW OR MODEL/RESPONSE/GOING TO MEET/ENCOUNTERS/STOVE
1D332 TETRAGRAM FOR /GREATNESS/ENLARGEMENT/PATTERN/RITUAL/FLIGHT/VASTNESS OR WASTING/CONSTANCY
1D339 TETRAGRAM FOR /MEASURE/ETERNITY/UNITY/DIMINISHMENT/CLOSED MOUTH/GUARDEDNESS/GATHERING IN
1D340 TETRAGRAM FOR /MASSING/ACCUMULATION/EMBELLISHMENT/DOUBT/WATCH/SINKING/INNER/DEPARTURE
1D348 TETRAGRAM FOR /DARKENING/DIMMING/EXHAUSTION/SEVERANCE/STOPPAGE/HARDNESS/COMPLETION/CLOSURE
1D350 TETRAGRAM FOR /FAILURE/AGGRAVATION/COMPLIANCE/ON THE VERGE/DIFFICULTIES/LABOURING/FOSTERING
1D360 COUNTING ROD UNIT DIGIT /ONE/TWO/THREE/FOUR/FIVE/SIX/SEVEN/EIGHT/NINE
1D369 COUNTING ROD TENS DIGIT /ONE/TWO/THREE/FOUR/FIVE/SIX/SEVEN/EIGHT/NINE
1D372 IDEOGRAPHIC TALLY MARK /ONE/TWO/THREE/FOUR/FIVE
1D377 TALLY MARK /ONE/FIVE
1D400 MATHEMATICAL BOLD CAPITAL /A/B/C/D/E/F/G/H/I/J/K/L/M/N/O/P/Q/R/S/T/U/V/W/X/Y/Z
1D41A MATHEMATICAL BOLD SMALL /A/B/C/D/E/F/G/H/I/J/K/L/M/N/O/P/Q/R/S/T/U/V/W/X/Y/Z
1D434 MATHEMATICAL ITALIC CAPITAL /A/B/C/D/E/F/G/H/I/J/K/L/M/N/O/P/Q/R/S/T/U/V/W/X/Y/Z
1D44E MATHEMATICAL ITALIC SMALL /A/B/C/D/E/F/G
1D456 MATHEMATICAL ITALIC SMALL /I/J/K/L/M/N/O/P/Q/R/S/T/U/V/W/X/Y/Z
1D468 MATHEMATICAL BOLD ITALIC CAPITAL /A/B/C/D/E/F/G/H/I/J/K/L/M/N/O/P/Q/R/S/T/U/V/W/X/Y/Z
1D482 MATHEMATICAL BOLD ITALIC SMALL /A/B/C/D/E/F/G/H/I/J/K/L/M/N/O/P/Q/R/S/T/U/V/W/X/Y/Z
1D49C /MATHEMATICAL SCRIPT CAPITAL A
1D49E MATHEMATICAL SCRIPT CAPITAL /C/D
1D4A2 /MATHEMATICAL SCRIPT CAPITAL G
1D4A5 MATHEMATICAL SCRIPT CAPITAL /J/K
1D4A9 MATHEMATICAL SCRIPT CAPITAL /N/O/P/Q
1D4AE MATHEMATICAL SCRIPT CAPITAL /S/T/U/V/W/X/Y/Z
1D4B6 MATHEMATICAL SCRIPT SMALL /A/B/C/D
1D4BB /MATHEMATICAL SCRIPT SMALL F
1D4BD MATHEMATICAL SCRIPT SMALL /H/I/J/K/L/M/N
1D4C5 MATHEMATICAL SCRIPT SMALL /P/Q/R/S/T/U/V/W/X/Y/Z
1D4D0 MATHEMATICAL BOLD SCRIPT CAPITAL /A/B/C/D/E/F/G/H/I/J/K/L/M/N/O/P/Q/R/S/T/U/V/W/X/Y/Z
1D4EA MATHEMATICAL BOLD SCRIPT SMALL /A/B/C/D/E/F/G/H/I/J/K/L/M/N/O/P/Q/R/S/T/U/V/W/X/Y/Z
1D504 MATHEMATICAL FRAKTUR CAPITAL /A/B
1D507 MATHEMATICAL FRAKTUR CAPITAL /D/E/F/G
1D50D MATHEMATICAL FRAKTUR CAPITAL /J/K/L/M/N/O/P/Q
1D516 MATHEMATICAL FRAKTUR CAPITAL /S/T/U/V/W/X/Y
1D51E MATHEMATICAL FRAKTUR SMALL /A/B/C/D/E/F/G/H/I/J/K/L/M/N/O/P/Q/R/S/T/U/V/W/X/Y/Z
1D538 MATHEMATICAL DOUBLE-STRUCK CAPITAL /A/B
1D53B MATHEMATICAL DOUBLE-STRUCK CAPITAL /D/E/F/G
1D540 MATHEMATICAL DOUBLE-STRUCK CAPITAL /I/J/K/L/M
1D546 /MATHEMATICAL DOUBLE-STRUCK CAPITAL O
1D54A MATHEMATICAL DOUBLE-STRUCK CAPITAL /S/T/U/V/W/X/Y
1D552 MATHEMATICAL DOUBLE-STRUCK SMALL /A/B/C/D/E/F/G/H/I/J/K/L/M/N/O/P/Q/R/S/T/U/V/W/X/Y/Z
1D56C MATHEMATICAL BOLD FRAKTUR CAPITAL /A/B/C/D/E/F/G/H/I/J/K/L/M/N/O/P/Q/R/S/T/U/V/W/X/Y/Z
1D586 MATHEMATICAL BOLD FRAKTUR SMALL /A/B/C/D/E/F/G/H/I/J/K/L/M/N/O/P/Q/R/S/T/U/V/W/X/Y/Z
1D5A0 MATHEMATICAL SANS-SERIF CAPITAL /A/B/C/D/E/F/G/H/I/J/K/L/M/N/O/P/Q/R/S/T/U/V/W/X/Y/Z
1D5BA MATHEMATICAL SANS-SERIF SMALL /A/B/C/D/E/F/G/H/I/J/K/L/M/N/O/P/Q/R/S/T/U/V/W/X/Y/Z
1D5D4 MATHEMATICAL SANS-SERIF BOLD CAPITAL /A/B/C/D/E/F/G/H/I/J/K/L/M/N/O/P/Q/R/S/T/U/V/W/X/Y/Z
1D5EE MATHEMATICAL SANS-SERIF BOLD SMALL /A/B/C/D/E/F/G/H/I/J/K/L/M/N/O/P/Q/R/S/T/U/V/W/X/Y/Z
1D608 MATHEMATICAL SANS-SERIF ITALIC CAPITAL /A/B/C/D/E/F/G/H/I/J/K/L/M/N/O/P/Q/R/S/T/U/V/W/X/Y/Z
1D622 MATHEMATICAL SANS-SERIF ITALIC SMALL /A/B/C/D/E/F/G/H/I/J/K/L/M/N/O/P/Q/R/S/T/U/V/W/X/Y/Z
1D63C MATHEMATICAL SANS-SERIF BOLD ITALIC CAPITAL /A/B/C/D/E/F/G/H/I/J/K/L/M/N/O/P/Q/R/S/T/U/V/W/X
1D654 MATHEMATICAL SANS-SERIF BOLD ITALIC /CAPITAL Y/CAPITAL Z/SMALL A
1D657 MATHEMATICAL SANS-SERIF BOLD ITALIC SMALL /B/C/D/E/F/G/H/I/J/K/L/M/N/O/P/Q/R/S/T/U/V/W/X/Y/Z
1D670 MATHEMATICAL MONOSPACE CAPITAL /A/B/C/D/E/F/G/H/I/J/K/L/M/N/O/P/Q/R/S/T/U/V/W/X/Y/Z
1D68A MATHEMATICAL MONOSPACE SMALL /A/B/C/D/E/F/G/H/I/J/K/L/M/N/O/P/Q/R/S/T/U/V/W/X/Y/Z
1D6A4 MATHEMATICAL ITALIC SMALL DOTLESS /I/J
1D6A8 MATHEMATICAL BOLD CAPITAL /ALPHA/BETA/GAMMA/DELTA/EPSILON/ZETA/ETA/THETA/IOTA/KAPPA/LAMDA/MU
1D6B4 MATHEMATICAL BOLD CAPITAL /NU/XI/OMICRON/PI/RHO/THETA SYMBOL/SIGMA/TAU/UPSILON/PHI/CHI/PSI
1D6C0 MATHEMATICAL BOLD /CAPITAL OMEGA/NABLA
1D6C2 MATHEMATICAL BOLD SMALL /ALPHA/BETA/GAMMA/DELTA/EPSILON/ZETA/ETA/THETA/IOTA/KAPPA/LAMDA/MU/NU
1D6CF MATHEMATICAL BOLD SMALL /XI/OMICRON/PI/RHO/FINAL SIGMA/SIGMA/TAU/UPSILON/PHI/CHI/PSI/OMEGA
1D6DB MATHEMATICAL BOLD /PARTIAL DIFFERENTIAL/EPSILON SYMBOL/THETA SYMBOL/KAPPA SYMBOL/PHI SYMBOL
1D6E0 MATHEMATICAL BOLD /RHO SYMBOL/PI SYMBOL
1D6E2 MATHEMATICAL ITALIC CAPITAL /ALPHA/BETA/GAMMA/DELTA/EPSILON/ZETA/ETA/THETA/IOTA/KAPPA/LAMDA
1D6ED MATHEMATICAL ITALIC CAPITAL /MU/NU/XI/OMICRON/PI/RHO/THETA SYMBOL/SIGMA/TAU/UPSILON/PHI/CHI
1D6F9 MATHEMATICAL ITALIC /CAPITAL PSI/CAPITAL OMEGA/NABLA/SMALL ALPHA
1D6FD MATHEMATICAL ITALIC SMALL /BETA/GAMMA/DELTA/EPSILON/ZETA/ETA/THETA/IOTA/KAPPA/LAMDA/MU/NU/XI
1D70A MATHEMATICAL ITALIC SMALL /OMICRON/PI/RHO/FINAL SIGMA/SIGMA/TAU/UPSILON/PHI/CHI/PSI/OMEGA
1D715 MATHEMATICAL ITALIC /PARTIAL DIFFERENTIAL/EPSILON SYMBOL/THETA SYMBOL/KAPPA SYMBOL/PHI SYMBOL
1D71A MATHEMATICAL ITALIC /RHO SYMBOL/PI SYMBOL
1D71C MATHEMATICAL BOLD ITALIC CAPITAL /ALPHA/BETA/GAMMA/DELTA/EPSILON/ZETA/ETA/THETA/IOTA/KAPPA
1D726 MATHEMATICAL BOLD ITALIC CAPITAL /LAMDA/MU/NU/XI/OMICRON/PI/RHO/THETA SYMBOL/SIGMA/TAU
1D730 MATHEMATICAL BOLD ITALIC CAPITAL /UPSILON/PHI/CHI/PSI/OMEGA
1D735 MATHEMATICAL BOLD ITALIC /NABLA/SMALL ALPHA/SMALL BETA
1D738 MATHEMATICAL BOLD ITALIC SMALL /GAMMA/DELTA/EPSILON/ZETA/ETA/THETA/IOTA/KAPPA/LAMDA/MU/NU/XI
1D744 MATHEMATICAL BOLD ITALIC SMALL /OMICRON/PI/RHO/FINAL SIGMA/SIGMA/TAU/UPSILON/PHI/CHI/PSI
1D74E MATHEMATICAL BOLD ITALIC /SMALL OMEGA/PARTIAL DIFFERENTIAL/EPSILON SYMBOL/THETA SYMBOL
1D752 MATHEMATICAL BOLD ITALIC /KAPPA SYMBOL/PHI SYMBOL/RHO SYMBOL/PI SYMBOL
1D756 MATHEMATICAL SANS-SERIF BOLD CAPITAL /ALPHA/BETA/GAMMA/DELTA/EPSILON/ZETA/ETA/THETA/IOTA
1D75F MATHEMATICAL SANS-SERIF BOLD CAPITAL /KAPPA/LAMDA/MU/NU/XI/OMICRON/PI/RHO/THETA SYMBOL/SIGMA
1D769 MATHEMATICAL SANS-SERIF BOLD CAPITAL /TAU/UPSILON/PHI/CHI/PSI/OMEGA
1D76F MATHEMATICAL SANS-SERIF BOLD /NABLA/SMALL ALPHA/SMALL BETA/SMALL GAMMA/SMALL DELTA
1D774 MATHEMATICAL SANS-SERIF BOLD SMALL /EPSILON/ZETA/ETA/THETA/IOTA/KAPPA/LAMDA/MU/NU/XI/OMICRON
1D77F MATHEMATICAL SANS-SERIF BOLD SMALL /PI/RHO/FINAL SIGMA/SIGMA/TAU/UPSILON/PHI/CHI/PSI/OMEGA
1D789 MATHEMATICAL SANS-SERIF BOLD /PARTIAL DIFFERENTIAL/EPSILON SYMBOL/THETA SYMBOL/KAPPA SYMBOL
1D78D MATHEMATICAL SANS-SERIF BOLD /PHI SYMBOL/RHO SYMBOL/PI SYMBOL
1D790 MATHEMATICAL SANS-SERIF BOLD ITALIC CAPITAL /ALPHA/BETA/GAMMA/DELTA/EPSILON/ZETA/ETA/THETA
1D798 MATHEMATICAL SANS-SERIF BOLD ITALIC CAPITAL /IOTA/KAPPA/LAMDA/MU/NU/XI/OMICRON/PI/RHO
1D7A1 MATHEMATICAL SANS-SERIF BOLD ITALIC CAPITAL /THETA SYMBOL/SIGMA/TAU/UPSILON/PHI/CHI/PSI/OMEGA
1D7A9 /MATHEMATICAL SANS-SERIF BOLD ITALIC NABLA
1D7AA MATHEMATICAL SANS-SERIF BOLD ITALIC SMALL /ALPHA/BETA/GAMMA/DELTA/EPSILON/ZETA/ETA/THETA/IOTA
1D7B3 MATHEMATICAL SANS-SERIF BOLD ITALIC SMALL /KAPPA/LAMDA/MU/NU/XI/OMICRON/PI/RHO/FINAL SIGMA
1D7BC MATHEMATICAL SANS-SERIF BOLD ITALIC SMALL /SIGMA/TAU/UPSILON/PHI/CHI/PSI/OMEGA
1D7C3 MATHEMATICAL SANS-SERIF BOLD ITALIC /PARTIAL DIFFERENTIAL/EPSILON SYMBOL/THETA SYMBOL
1D7C6 MATHEMATICAL SANS-SERIF BOLD ITALIC /KAPPA SYMBOL/PHI SYMBOL/RHO SYMBOL/PI SYMBOL
1D7CA MATHEMATICAL BOLD /CAPITAL DIGAMMA/SMALL DIGAMMA
1D7CE MATHEMATICAL BOLD DIGIT /ZERO/ONE/TWO/THREE/FOUR/FIVE/SIX/SEVEN/EIGHT/NINE
1D7D8 MATHEMATICAL DOUBLE-STRUCK DIGIT /ZERO/ONE/TWO/THREE/FOUR/FIVE/SIX/SEVEN/EIGHT/NINE
1D7E2 MATHEMATICAL SANS-SERIF DIGIT /ZERO/ONE/TWO/THREE/FOUR/FIVE/SIX/SEVEN/EIGHT/NINE
1D7EC MATHEMATICAL SANS-SERIF BOLD DIGIT /ZERO/ONE/TWO/THREE/FOUR/FIVE/SIX/SEVEN/EIGHT/NINE
1D7F6 MATHEMATICAL MONOSPACE DIGIT /ZERO/ONE/TWO/THREE/FOUR/FIVE/SIX/SEVEN/EIGHT/NINE
1D800 SIGNWRITING HAND-/FIST INDEX/CIRCLE INDEX/CUP INDEX/OVAL INDEX/HINGE INDEX/ANGLE INDEX
1D806 SIGNWRITING HAND-/FIST INDEX BENT/CIRCLE INDEX BENT/FIST THUMB UNDER INDEX BENT
1D809 SIGNWRITING HAND-FIST INDEX /RAISED KNUCKLE/CUPPED/HINGED/HINGED LOW
1D80D SIGNWRITING HAND-/CIRCLE INDEX HINGE/FIST INDEX MIDDLE/CIRCLE INDEX MIDDLE
1D810 SIGNWRITING HAND-FIST INDEX MIDDLE /BENT/RAISED KNUCKLES/HINGED
1D813 SIGNWRITING HAND-FIST INDEX /UP MIDDLE HINGED/HINGED MIDDLE UP/MIDDLE CONJOINED
1D816 SIGNWRITING HAND-FIST INDEX MIDDLE CONJOINED /INDEX BENT/MIDDLE BENT/CUPPED/HINGED
1D81A SIGNWRITING HAND-/FIST INDEX MIDDLE CROSSED/CIRCLE INDEX MIDDLE CROSSED
1D81C SIGNWRITING HAND-FIST /MIDDLE BENT OVER INDEX/INDEX BENT OVER MIDDLE/INDEX MIDDLE THUMB
1D81F SIGNWRITING HAND-/CIRCLE INDEX MIDDLE THUMB/FIST INDEX MIDDLE STRAIGHT THUMB BENT
1D821 SIGNWRITING HAND-FIST INDEX MIDDLE /BENT THUMB STRAIGHT/THUMB BENT/HINGED SPREAD THUMB SIDE
1D824 SIGNWRITING HAND-FIST INDEX UP MIDDLE HINGED THUMB /SIDE/CONJOINED
1D826 SIGNWRITING HAND-FIST INDEX /HINGED MIDDLE UP THUMB SIDE/MIDDLE UP SPREAD THUMB FORWARD
1D828 SIGNWRITING HAND-FIST INDEX MIDDLE THUMB /CUPPED/CIRCLED/HOOKED/HINGED
1D82C /SIGNWRITING HAND-FIST THUMB BETWEEN INDEX MIDDLE STRAIGHT
1D82D SIGNWRITING HAND-FIST INDEX MIDDLE CONJOINED THUMB /SIDE/SIDE CONJOINED/SIDE BENT
1D830 SIGNWRITING HAND-FIST /MIDDLE THUMB HOOKED INDEX UP/INDEX THUMB HOOKED MIDDLE UP
1D832 SIGNWRITING HAND-FIST INDEX MIDDLE /CONJOINED HINGED THUMB SIDE/CROSSED THUMB SIDE
1D834 SIGNWRITING HAND-FIST INDEX MIDDLE CONJOINED /THUMB FORWARD/CUPPED THUMB FORWARD
1D836 SIGNWRITING HAND-FIST /MIDDLE THUMB CUPPED INDEX UP/INDEX THUMB CUPPED MIDDLE UP
1D838 SIGNWRITING HAND-FIST MIDDLE THUMB CIRCLED INDEX /UP/HINGED
1D83A SIGNWRITING HAND-FIST INDEX THUMB /ANGLED OUT MIDDLE UP/ANGLED IN MIDDLE UP/CIRCLED MIDDLE UP
1D83D SIGNWRITING HAND-FIST INDEX MIDDLE THUMB /CONJOINED HINGED/ANGLED OUT/ANGLED
1D840 SIGNWRITING HAND-FIST MIDDLE THUMB ANGLED /OUT INDEX UP/OUT INDEX CROSSED/INDEX UP
1D843 SIGNWRITING HAND-/FIST INDEX THUMB HOOKED MIDDLE HINGED/FLAT FOUR FINGERS
1D845 SIGNWRITING HAND-FLAT FOUR FINGERS /BENT/HINGED/CONJOINED/CONJOINED SPLIT
1D849 SIGNWRITING HAND-/CLAW FOUR FINGERS CONJOINED/FIST FOUR FINGERS CONJOINED BENT
1D84B SIGNWRITING HAND-/HINGE FOUR FINGERS CONJOINED/FLAT FIVE FINGERS SPREAD
1D84D SIGNWRITING HAND-FLAT /HEEL FIVE FINGERS SPREAD/FIVE FINGERS SPREAD FOUR BENT
1D84F SIGNWRITING HAND-FLAT /HEEL FIVE FINGERS SPREAD FOUR BENT/FIVE FINGERS SPREAD BENT
1D851 SIGNWRITING HAND-FLAT /HEEL FIVE FINGERS SPREAD BENT/FIVE FINGERS SPREAD THUMB FORWARD
1D853 SIGNWRITING HAND-CUP FIVE FINGERS /SPREAD/SPREAD OPEN
1D855 SIGNWRITING HAND-/HINGE FIVE FINGERS SPREAD OPEN/OVAL FIVE FINGERS SPREAD
1D857 SIGNWRITING HAND-FLAT FIVE FINGERS SPREAD /HINGED/HINGED THUMB SIDE/HINGED NO THUMB
1D85A SIGNWRITING HAND-/FLAT/FLAT BETWEEN PALM FACINGS
1D85C SIGNWRITING HAND-FLAT /HEEL/THUMB SIDE/HEEL THUMB SIDE/THUMB BENT/THUMB FORWARD
1D861 SIGNWRITING HAND-FLAT SPLIT /INDEX THUMB SIDE/CENTRE/CENTRE THUMB SIDE/CENTRE THUMB SIDE BENT
1D865 SIGNWRITING HAND-/FLAT SPLIT LITTLE/CLAW/CLAW THUMB SIDE/CLAW NO THUMB/CLAW THUMB FORWARD
1D86A SIGNWRITING HAND-/HOOK CURLICUE/HOOK/CUP OPEN/CUP/CUP OPEN THUMB SIDE
1D86F SIGNWRITING HAND-CUP /THUMB SIDE/OPEN NO THUMB/NO THUMB/OPEN THUMB FORWARD/THUMB FORWARD
1D874 SIGNWRITING HAND-/CURLICUE OPEN/CURLICUE/CIRCLE/OVAL/OVAL THUMB SIDE/OVAL NO THUMB
1D87A SIGNWRITING HAND-/OVAL THUMB FORWARD/HINGE OPEN/HINGE OPEN THUMB FORWARD/HINGE
1D87E SIGNWRITING HAND-HINGE /SMALL/OPEN THUMB SIDE/THUMB SIDE/OPEN NO THUMB/NO THUMB
1D883 SIGNWRITING HAND-HINGE THUMB /SIDE TOUCHING INDEX/BETWEEN MIDDLE RING
1D885 SIGNWRITING HAND-/ANGLE/FIST INDEX MIDDLE RING/CIRCLE INDEX MIDDLE RING
1D888 SIGNWRITING HAND-/HINGE INDEX MIDDLE RING/ANGLE INDEX MIDDLE RING/HINGE LITTLE
1D88B SIGNWRITING HAND-FIST INDEX MIDDLE RING /BENT/CONJOINED
1D88D SIGNWRITING HAND-/HINGE INDEX MIDDLE RING CONJOINED/FIST LITTLE DOWN
1D88F SIGNWRITING HAND-FIST LITTLE /DOWN RIPPLE STRAIGHT/DOWN RIPPLE CURVED/DOWN OTHERS CIRCLED/UP
1D893 SIGNWRITING HAND-/FIST THUMB UNDER LITTLE UP/CIRCLE LITTLE UP/OVAL LITTLE UP/ANGLE LITTLE UP
1D897 SIGNWRITING HAND-FIST LITTLE /RAISED KNUCKLE/BENT/TOUCHES THUMB/THUMB
1D89B SIGNWRITING HAND-/HINGE LITTLE THUMB/FIST LITTLE INDEX THUMB/HINGE LITTLE INDEX THUMB
1D89E SIGNWRITING HAND-ANGLE LITTLE INDEX THUMB INDEX /THUMB OUT/THUMB
1D8A0 SIGNWRITING HAND-/FIST LITTLE INDEX/CIRCLE LITTLE INDEX/HINGE LITTLE INDEX/ANGLE LITTLE INDEX
1D8A4 SIGNWRITING HAND-/FIST INDEX MIDDLE LITTLE/CIRCLE INDEX MIDDLE LITTLE
1D8A6 SIGNWRITING HAND-/HINGE INDEX MIDDLE LITTLE/HINGE RING/ANGLE INDEX MIDDLE LITTLE
1D8A9 SIGNWRITING HAND-/FIST INDEX MIDDLE CROSS LITTLE/CIRCLE INDEX MIDDLE CROSS LITTLE
1D8AB SIGNWRITING HAND-/FIST RING DOWN/HINGE RING DOWN INDEX THUMB HOOK MIDDLE
1D8AD /SIGNWRITING HAND-ANGLE RING DOWN MIDDLE THUMB INDEX CROSS
1D8AE SIGNWRITING HAND-FIST RING /UP/RAISED KNUCKLE/LITTLE
1D8B1 SIGNWRITING HAND-/CIRCLE RING LITTLE/OVAL RING LITTLE/ANGLE RING LITTLE
1D8B4 SIGNWRITING HAND-FIST RING /MIDDLE/MIDDLE CONJOINED/MIDDLE RAISED KNUCKLES/INDEX/THUMB
1D8B9 SIGNWRITING HAND-/HOOK RING THUMB/FIST INDEX RING LITTLE/CIRCLE INDEX RING LITTLE
1D8BC /SIGNWRITING HAND-CURLICUE INDEX RING LITTLE ON
1D8BD SIGNWRITING HAND-HOOK INDEX RING LITTLE /OUT/IN/UNDER
1D8C0 SIGNWRITING HAND-/CUP INDEX RING LITTLE/HINGE INDEX RING LITTLE
1D8C2 SIGNWRITING HAND-ANGLE INDEX RING /LITTLE OUT/LITTLE
1D8C4 SIGNWRITING HAND-/FIST MIDDLE DOWN/HINGE MIDDLE/FIST MIDDLE UP/CIRCLE MIDDLE UP
1D8C8 SIGNWRITING HAND-/FIST MIDDLE RAISED KNUCKLE/FIST MIDDLE UP THUMB SIDE/HOOK MIDDLE THUMB
1D8CB SIGNWRITING HAND-FIST MIDDLE /THUMB LITTLE/LITTLE/RING LITTLE
1D8CE SIGNWRITING HAND-/CIRCLE MIDDLE RING LITTLE/CURLICUE MIDDLE RING LITTLE ON
1D8D0 SIGNWRITING HAND-/CUP MIDDLE RING LITTLE/HINGE MIDDLE RING LITTLE
1D8D2 SIGNWRITING HAND-ANGLE MIDDLE RING /LITTLE OUT/LITTLE IN/LITTLE
1D8D5 /SIGNWRITING HAND-CIRCLE MIDDLE RING LITTLE BENT
1D8D6 SIGNWRITING HAND-CLAW MIDDLE RING LITTLE /CONJOINED/CONJOINED SIDE
1D8D8 SIGNWRITING HAND-HOOK MIDDLE RING LITTLE /CONJOINED OUT/CONJOINED IN/CONJOINED
1D8DB SIGNWRITING HAND-/HINGE INDEX HINGED/FIST INDEX THUMB SIDE/HINGE INDEX THUMB SIDE
1D8DE SIGNWRITING HAND-FIST INDEX THUMB SIDE /THUMB DIAGONAL/THUMB CONJOINED/THUMB BENT/INDEX BENT
1D8E2 SIGNWRITING HAND-FIST INDEX THUMB /SIDE BOTH BENT/SIDE INDEX HINGE/FORWARD INDEX STRAIGHT
1D8E5 SIGNWRITING HAND-FIST INDEX THUMB /FORWARD INDEX BENT/HOOK/CURLICUE/CURVE THUMB INSIDE
1D8E9 /SIGNWRITING HAND-CLAW INDEX THUMB CURVE THUMB INSIDE
1D8EA SIGNWRITING HAND-FIST INDEX THUMB /CURVE THUMB UNDER/CIRCLE
1D8EC SIGNWRITING HAND-CUP INDEX /THUMB/THUMB OPEN
1D8EE SIGNWRITING HAND-HINGE INDEX /THUMB OPEN/THUMB LARGE/THUMB/THUMB SMALL
1D8F2 SIGNWRITING HAND-ANGLE INDEX /THUMB OUT/THUMB IN/THUMB
1D8F5 SIGNWRITING HAND-FIST /THUMB/THUMB HEEL/THUMB SIDE DIAGONAL/THUMB SIDE CONJOINED
1D8F9 SIGNWRITING HAND-FIST THUMB /SIDE BENT/FORWARD/BETWEEN INDEX MIDDLE/BETWEEN MIDDLE RING
1D8FD SIGNWRITING HAND-FIST THUMB /BETWEEN RING LITTLE/UNDER TWO FINGERS/OVER TWO FINGERS
1D900 SIGNWRITING HAND-FIST THUMB /UNDER THREE FINGERS/UNDER FOUR FINGERS/OVER FOUR RAISED KNUCKLES
1D903 SIGNWRITING /HAND-FIST/HAND-FIST HEEL/TOUCH SINGLE/TOUCH MULTIPLE/TOUCH BETWEEN
1D908 SIGNWRITING GRASP /SINGLE/MULTIPLE/BETWEEN
1D90B SIGNWRITING STRIKE /SINGLE/MULTIPLE/BETWEEN
1D90E SIGNWRITING BRUSH /SINGLE/MULTIPLE/BETWEEN
1D911 SIGNWRITING /RUB SINGLE/RUB MULTIPLE/RUB BETWEEN/SURFACE SYMBOLS/SURFACE BETWEEN
1D916 SIGNWRITING SQUEEZE /LARGE SINGLE/SMALL SINGLE/LARGE MULTIPLE/SMALL MULTIPLE/SEQUENTIAL
1D91B SIGNWRITING FLICK /LARGE SINGLE/SMALL SINGLE/LARGE MULTIPLE/SMALL MULTIPLE/SEQUENTIAL
1D920 /SIGNWRITING SQUEEZE FLICK ALTERNATING
1D921 SIGNWRITING MOVEMENT-HINGE /UP DOWN LARGE/UP DOWN SMALL/UP SEQUENTIAL/DOWN SEQUENTIAL
1D925 SIGNWRITING MOVEMENT-HINGE UP DOWN ALTERNATING /LARGE/SMALL
1D927 SIGNWRITING MOVEMENT-/HINGE SIDE TO SIDE SCISSORS/WALLPLANE FINGER CONTACT
1D929 /SIGNWRITING MOVEMENT-FLOORPLANE FINGER CONTACT
1D92A SIGNWRITING MOVEMENT-WALLPLANE SINGLE STRAIGHT /SMALL/MEDIUM/LARGE/LARGEST
1D92E /SIGNWRITING MOVEMENT-WALLPLANE SINGLE WRIST FLEX
1D92F SIGNWRITING MOVEMENT-WALLPLANE DOUBLE /STRAIGHT/WRIST FLEX/ALTERNATING/ALTERNATING WRIST FLEX
1D933 SIGNWRITING MOVEMENT-WALLPLANE /CROSS/TRIPLE STRAIGHT MOVEMENT
1D935 SIGNWRITING MOVEMENT-WALLPLANE TRIPLE /WRIST FLEX/ALTERNATING/ALTERNATING WRIST FLEX
1D938 SIGNWRITING MOVEMENT-WALLPLANE BEND /SMALL/MEDIUM/LARGE
1D93B SIGNWRITING MOVEMENT-WALLPLANE CORNER /SMALL/MEDIUM/LARGE/ROTATION
1D93F SIGNWRITING MOVEMENT-WALLPLANE /CHECK SMALL/CHECK MEDIUM/CHECK LARGE/BOX SMALL/BOX MEDIUM
1D944 SIGNWRITING MOVEMENT-WALLPLANE /BOX LARGE/ZIGZAG SMALL/ZIGZAG MEDIUM/ZIGZAG LARGE
1D948 SIGNWRITING MOVEMENT-WALLPLANE PEAKS /SMALL/MEDIUM/LARGE
1D94B SIGNWRITING TRAVEL-WALLPLANE ROTATION-WALLPLANE /SINGLE/DOUBLE/ALTERNATING
1D94E SIGNWRITING TRAVEL-WALLPLANE ROTATION-FLOORPLANE /SINGLE/DOUBLE/ALTERNATING
1D951 SIGNWRITING TRAVEL-WALLPLANE /SHAKING/ARM SPIRAL SINGLE/ARM SPIRAL DOUBLE/ARM SPIRAL TRIPLE
1D955 SIGNWRITING MOVEMENT-DIAGONAL AWAY /SMALL/MEDIUM/LARGE/LARGEST
1D959 SIGNWRITING MOVEMENT-DIAGONAL TOWARDS /SMALL/MEDIUM/LARGE/LARGEST
1D95D SIGNWRITING MOVEMENT-DIAGONAL BETWEEN AWAY /SMALL/MEDIUM/LARGE/LARGEST
1D961 SIGNWRITING MOVEMENT-DIAGONAL BETWEEN TOWARDS /SMALL/MEDIUM/LARGE/LARGEST
1D965 SIGNWRITING MOVEMENT-FLOORPLANE SINGLE STRAIGHT /SMALL/MEDIUM/LARGE/LARGEST
1D969 SIGNWRITING MOVEMENT-FLOORPLANE /SINGLE WRIST FLEX/DOUBLE STRAIGHT
1D96B SIGNWRITING MOVEMENT-FLOORPLANE DOUBLE /WRIST FLEX/ALTERNATING/ALTERNATING WRIST FLEX
1D96E SIGNWRITING MOVEMENT-FLOORPLANE /CROSS/TRIPLE STRAIGHT MOVEMENT/TRIPLE WRIST FLEX
1D971 SIGNWRITING MOVEMENT-FLOORPLANE TRIPLE ALTERNATING /MOVEMENT/WRIST FLEX
1D973 SIGNWRITING MOVEMENT-FLOORPLANE /BEND/CORNER SMALL/CORNER MEDIUM/CORNER LARGE/CHECK/BOX SMALL
1D979 SIGNWRITING MOVEMENT-FLOORPLANE /BOX MEDIUM/BOX LARGE/ZIGZAG SMALL/ZIGZAG MEDIUM/ZIGZAG LARGE
1D97E SIGNWRITING MOVEMENT-FLOORPLANE PEAKS /SMALL/MEDIUM/LARGE
1D981 SIGNWRITING TRAVEL-FLOORPLANE ROTATION-FLOORPLANE /SINGLE/DOUBLE/ALTERNATING
1D984 SIGNWRITING TRAVEL-FLOORPLANE ROTATION-WALLPLANE /SINGLE/DOUBLE/ALTERNATING
1D987 /SIGNWRITING TRAVEL-FLOORPLANE SHAKING
1D988 SIGNWRITING MOVEMENT-WALLPLANE CURVE QUARTER /SMALL/MEDIUM/LARGE/LARGEST
1D98C SIGNWRITING MOVEMENT-WALLPLANE CURVE HALF-CIRCLE /SMALL/MEDIUM/LARGE/LARGEST
1D990 SIGNWRITING MOVEMENT-WALLPLANE CURVE THREE-QUARTER CIRCLE /SMALL/MEDIUM
1D992 SIGNWRITING MOVEMENT-WALLPLANE HUMP /SMALL/MEDIUM/LARGE
1D995 SIGNWRITING MOVEMENT-WALLPLANE LOOP /SMALL/MEDIUM/LARGE/SMALL DOUBLE
1D999 SIGNWRITING MOVEMENT-WALLPLANE WAVE CURVE DOUBLE /SMALL/MEDIUM/LARGE
1D99C SIGNWRITING MOVEMENT-WALLPLANE WAVE CURVE TRIPLE /SMALL/MEDIUM/LARGE
1D99F SIGNWRITING MOVEMENT-WALLPLANE /CURVE THEN STRAIGHT/CURVED CROSS SMALL/CURVED CROSS MEDIUM
1D9A2 SIGNWRITING ROTATION-WALLPLANE /SINGLE/DOUBLE/ALTERNATE
1D9A5 SIGNWRITING MOVEMENT-WALLPLANE /SHAKING/CURVE HITTING FRONT WALL/HUMP HITTING FRONT WALL
1D9A8 SIGNWRITING MOVEMENT-WALLPLANE /LOOP HITTING FRONT WALL/WAVE HITTING FRONT WALL
1D9AA SIGNWRITING ROTATION-WALLPLANE /SINGLE HITTING FRONT WALL/DOUBLE HITTING FRONT WALL
1D9AC /SIGNWRITING ROTATION-WALLPLANE ALTERNATING HITTING FRONT WALL
1D9AD SIGNWRITING MOVEMENT-WALLPLANE /CURVE HITTING CHEST/HUMP HITTING CHEST/LOOP HITTING CHEST
1D9B0 SIGNWRITING /MOVEMENT-WALLPLANE WAVE HITTING CHEST/ROTATION-WALLPLANE SINGLE HITTING CHEST
1D9B2 SIGNWRITING ROTATION-WALLPLANE /DOUBLE HITTING CHEST/ALTERNATING HITTING CHEST
1D9B4 SIGNWRITING MOVEMENT-WALLPLANE WAVE DIAGONAL PATH /SMALL/MEDIUM/LARGE
1D9B7 SIGNWRITING MOVEMENT-FLOORPLANE CURVE HITTING CEILING /SMALL/LARGE
1D9B9 SIGNWRITING MOVEMENT-FLOORPLANE HUMP HITTING CEILING /SMALL DOUBLE/LARGE DOUBLE/SMALL TRIPLE
1D9BC /SIGNWRITING MOVEMENT-FLOORPLANE HUMP HITTING CEILING LARGE TRIPLE
1D9BD SIGNWRITING MOVEMENT-FLOORPLANE LOOP HITTING CEILING /SMALL SINGLE/LARGE SINGLE/SMALL DOUBLE
1D9C0 /SIGNWRITING MOVEMENT-FLOORPLANE LOOP HITTING CEILING LARGE DOUBLE
1D9C1 SIGNWRITING MOVEMENT-FLOORPLANE WAVE HITTING CEILING /SMALL/LARGE
1D9C3 SIGNWRITING ROTATION-FLOORPLANE /SINGLE HITTING CEILING/DOUBLE HITTING CEILING
1D9C5 /SIGNWRITING ROTATION-FLOORPLANE ALTERNATING HITTING CEILING
1D9C6 SIGNWRITING MOVEMENT-FLOORPLANE CURVE HITTING FLOOR /SMALL/LARGE
1D9C8 SIGNWRITING MOVEMENT-FLOORPLANE HUMP HITTING FLOOR /SMALL DOUBLE/LARGE DOUBLE
1D9CA SIGNWRITING MOVEMENT-FLOORPLANE HUMP HITTING FLOOR TRIPLE /SMALL TRIPLE/LARGE TRIPLE
1D9CC SIGNWRITING MOVEMENT-FLOORPLANE LOOP HITTING FLOOR /SMALL SINGLE/LARGE SINGLE/SMALL DOUBLE
1D9CF /SIGNWRITING MOVEMENT-FLOORPLANE LOOP HITTING FLOOR LARGE DOUBLE
1D9D0 SIGNWRITING MOVEMENT-FLOORPLANE WAVE HITTING FLOOR /SMALL/LARGE
1D9D2 SIGNWRITING ROTATION-FLOORPLANE /SINGLE HITTING FLOOR/DOUBLE HITTING FLOOR
1D9D4 /SIGNWRITING ROTATION-FLOORPLANE ALTERNATING HITTING FLOOR
1D9D5 SIGNWRITING MOVEMENT-FLOORPLANE CURVE /SMALL/MEDIUM/LARGE/LARGEST/COMBINED
1D9DA SIGNWRITING MOVEMENT-FLOORPLANE /HUMP SMALL/LOOP SMALL/WAVE SNAKE/WAVE SMALL/WAVE LARGE
1D9DF SIGNWRITING ROTATION-FLOORPLANE /SINGLE/DOUBLE/ALTERNATING
1D9E2 SIGNWRITING MOVEMENT-/FLOORPLANE SHAKING PARALLEL/WALLPLANE ARM CIRCLE SMALL SINGLE
1D9E4 SIGNWRITING MOVEMENT-WALLPLANE ARM CIRCLE /MEDIUM SINGLE/SMALL DOUBLE/MEDIUM DOUBLE
1D9E7 SIGNWRITING MOVEMENT-FLOORPLANE ARM CIRCLE HITTING WALL /SMALL SINGLE/MEDIUM SINGLE
1D9E9 SIGNWRITING MOVEMENT-FLOORPLANE ARM CIRCLE HITTING WALL /LARGE SINGLE/SMALL DOUBLE
1D9EB SIGNWRITING MOVEMENT-FLOORPLANE ARM CIRCLE HITTING WALL /MEDIUM DOUBLE/LARGE DOUBLE
1D9ED SIGNWRITING MOVEMENT-WALLPLANE WRIST CIRCLE FRONT /SINGLE/DOUBLE
1D9EF SIGNWRITING MOVEMENT-FLOORPLANE WRIST CIRCLE HITTING WALL /SINGLE/DOUBLE
1D9F1 SIGNWRITING MOVEMENT-WALLPLANE FINGER CIRCLES /SINGLE/DOUBLE
1D9F3 SIGNWRITING MOVEMENT-FLOORPLANE FINGER CIRCLES HITTING WALL /SINGLE/DOUBLE
1D9F5 SIGNWRITING DYNAMIC /ARROWHEAD SMALL/ARROWHEAD LARGE/FAST/SLOW/TENSE/RELAXED/SIMULTANEOUS
1D9FC SIGNWRITING DYNAMIC /SIMULTANEOUS ALTERNATING/EVERY OTHER TIME/GRADUAL
1D9FF SIGNWRITING /HEAD/HEAD RIM
1DA01 SIGNWRITING HEAD MOVEMENT-/WALLPLANE STRAIGHT/WALLPLANE TILT/FLOORPLANE STRAIGHT
1DA04 SIGNWRITING HEAD /MOVEMENT-WALLPLANE CURVE/MOVEMENT-FLOORPLANE CURVE/MOVEMENT CIRCLE
1DA07 SIGNWRITING FACE DIRECTION POSITION NOSE /FORWARD TILTING/UP OR DOWN/UP OR DOWN TILTING
1DA0A SIGNWRITING EYEBROWS STRAIGHT /UP/NEUTRAL/DOWN
1DA0D SIGNWRITING DREAMY EYEBROWS /NEUTRAL DOWN/DOWN NEUTRAL/UP NEUTRAL/NEUTRAL UP
1DA11 SIGNWRITING FOREHEAD /NEUTRAL/CONTACT/WRINKLED
1DA14 SIGNWRITING EYES /OPEN/SQUEEZED/CLOSED
1DA17 SIGNWRITING EYE BLINK /SINGLE/MULTIPLE
1DA19 SIGNWRITING /EYES HALF OPEN/EYES WIDE OPEN/EYES HALF CLOSED/EYES WIDENING MOVEMENT/EYE WINK
1DA1E SIGNWRITING EYELASHES /UP/DOWN/FLUTTERING
1DA21 SIGNWRITING EYEGAZE-WALLPLANE /STRAIGHT/STRAIGHT DOUBLE/STRAIGHT ALTERNATING
1DA24 SIGNWRITING EYEGAZE-FLOORPLANE /STRAIGHT/STRAIGHT DOUBLE/STRAIGHT ALTERNATING
1DA27 SIGNWRITING EYEGAZE-/WALLPLANE CURVED/FLOORPLANE CURVED/WALLPLANE CIRCLING
1DA2A SIGNWRITING CHEEKS /PUFFED/NEUTRAL/SUCKED
1DA2D SIGNWRITING TENSE CHEEKS /HIGH/MIDDLE/LOW
1DA30 SIGNWRITING /EARS/NOSE NEUTRAL/NOSE CONTACT/NOSE WRINKLES/NOSE WIGGLES
1DA35 SIGNWRITING AIR /BLOWING OUT/SUCKING IN/BLOW SMALL ROTATIONS/SUCK SMALL ROTATIONS
1DA39 SIGNWRITING BREATH /INHALE/EXHALE
1DA3B SIGNWRITING MOUTH CLOSED /NEUTRAL/FORWARD/CONTACT
1DA3E SIGNWRITING MOUTH /SMILE/SMILE WRINKLED/SMILE OPEN/FROWN/FROWN WRINKLED/FROWN OPEN
1DA44 SIGNWRITING MOUTH OPEN /CIRCLE/FORWARD/WRINKLED/OVAL/OVAL WRINKLED/OVAL YAWN/RECTANGLE
1DA4B SIGNWRITING MOUTH OPEN RECTANGLE /WRINKLED/YAWN
1DA4D SIGNWRITING MOUTH /KISS/KISS FORWARD/KISS WRINKLED/TENSE/TENSE FORWARD/TENSE SUCKED
1DA53 SIGNWRITING /LIPS PRESSED TOGETHER/LIP LOWER OVER UPPER/LIP UPPER OVER LOWER/MOUTH CORNERS
1DA57 SIGNWRITING MOUTH WRINKLES /SINGLE/DOUBLE
1DA59 SIGNWRITING TONGUE /STICKING OUT FAR/LICKING LIPS/TIP BETWEEN LIPS/TIP TOUCHING INSIDE MOUTH
1DA5D SIGNWRITING TONGUE /INSIDE MOUTH RELAXED/MOVES AGAINST CHEEK/CENTRE STICKING OUT
1DA60 SIGNWRITING /TONGUE CENTRE INSIDE MOUTH/TEETH
1DA62 SIGNWRITING TEETH /MOVEMENT/ON TONGUE/ON TONGUE MOVEMENT/ON LIPS/ON LIPS MOVEMENT/BITE LIPS
1DA68 SIGNWRITING /MOVEMENT-WALLPLANE JAW/MOVEMENT-FLOORPLANE JAW/NECK/HAIR/EXCITEMENT
1DA6D SIGNWRITING /SHOULDER HIP SPINE/SHOULDER HIP POSITIONS/WALLPLANE SHOULDER HIP MOVE
1DA70 SIGNWRITING /FLOORPLANE SHOULDER HIP MOVE/SHOULDER TILTING FROM WAIST
1DA72 SIGNWRITING TORSO-WALLPLANE /STRAIGHT STRETCH/CURVED BEND
1DA74 SIGNWRITING /TORSO-FLOORPLANE TWISTING/UPPER BODY TILTING FROM HIP JOINTS/LIMB COMBINATION
1DA77 SIGNWRITING LIMB LENGTH-/1/2/3/4/5/6/7
1DA7E SIGNWRITING /FINGER/LOCATION-WALLPLANE SPACE/LOCATION-FLOORPLANE SPACE
1DA81 SIGNWRITING LOCATION /HEIGHT/WIDTH/DEPTH/HEAD NECK/TORSO/LIMBS DIGITS
1DA87 SIGNWRITING /COMMA/FULL STOP/SEMICOLON/COLON/PARENTHESIS
1DA9B SIGNWRITING FILL MODIFIER-/2/3/4/5/6
1DAA1 SIGNWRITING ROTATION MODIFIER-/2/3/4/5/6/7/8/9/10/11/12/13/14/15/16
1DF00 LATIN SMALL LETTER /FENG DIGRAPH WITH TRILL/REVERSED SCRIPT G
1DF02 LATIN /LETTER SMALL CAPITAL TURNED G/SMALL LETTER REVERSED K/LETTER SMALL CAPITAL L WITH BELT
1DF05 LATIN SMALL LETTER /LEZH WITH RETROFLEX HOOK/TURNED Y WITH BELT/REVERSED ENG
1DF08 LATIN SMALL LETTER /TURNED R WITH LONG LEG AND RETROFLEX HOOK/T WITH HOOK AND RETROFLEX HOOK
1DF0A /LATIN LETTER RETROFLEX CLICK WITH RETROFLEX HOOK
1DF0B LATIN SMALL LETTER /ESH WITH DOUBLE BAR/ESH WITH DOUBLE BAR AND CURL/TURNED T WITH CURL
1DF0E LATIN LETTER /INVERTED GLOTTAL STOP WITH CURL/STRETCHED C WITH CURL/SMALL CAPITAL TURNED K
1DF11 LATIN SMALL LETTER /L WITH FISHHOOK/DEZH DIGRAPH WITH PALATAL HOOK
1DF13 LATIN SMALL LETTER /L WITH BELT AND PALATAL HOOK/ENG WITH PALATAL HOOK
1DF15 LATIN SMALL LETTER /TURNED R WITH PALATAL HOOK/R WITH FISHHOOK AND PALATAL HOOK
1DF17 LATIN SMALL LETTER /TESH DIGRAPH WITH PALATAL HOOK/EZH WITH PALATAL HOOK
1DF19 LATIN SMALL LETTER /DEZH DIGRAPH WITH RETROFLEX HOOK/I WITH STROKE AND RETROFLEX HOOK
1DF1B LATIN SMALL LETTER /O WITH RETROFLEX HOOK/TESH DIGRAPH WITH RETROFLEX HOOK
1DF1D LATIN SMALL LETTER /C WITH RETROFLEX HOOK/S WITH CURL
1E000 COMBINING GLAGOLITIC LETTER /AZU/BUKY/VEDE/GLAGOLI/DOBRO/YESTU/ZHIVETE
1E008 COMBINING GLAGOLITIC LETTER /ZEMLJA/IZHE/INITIAL IZHE/I/DJERVI/KAKO/LJUDIJE/MYSLITE/NASHI/ONU
1E012 COMBINING GLAGOLITIC LETTER /POKOJI/RITSI/SLOVO/TVRIDO/UKU/FRITU/HERU
1E01B COMBINING GLAGOLITIC LETTER /SHTA/TSI/CHRIVI/SHA/YERU/YERI/YATI
1E023 COMBINING GLAGOLITIC LETTER /YU/SMALL YUS
1E026 COMBINING GLAGOLITIC LETTER /YO/IOTATED SMALL YUS/BIG YUS/IOTATED BIG YUS/FITA
1E100 NYIAKENG PUACHUE HMONG LETTER /MA/TSA/NTA/TA/HA/NA/XA/NKA/CA/LA/SA/ZA/NCA/NTSA/KA/DA/NYA/NRA
1E112 NYIAKENG PUACHUE HMONG LETTER /VA/NTXA/TXA/FA/RA/QA/YA/NQA/PA/XYA/NPA/DLA/NPLA/HAH/MLA/PLA/GA
1E123 NYIAKENG PUACHUE HMONG LETTER /RRA/A/AA/I/U/O/OO/E/EE/W
1E130 NYIAKENG PUACHUE HMONG TONE-/B/M/J/V/S/G/D
1E137 NYIAKENG PUACHUE HMONG SIGN FOR /PERSON/THING/LOCATION/ANIMAL/INVERTEBRATE
1E13C NYIAKENG PUACHUE HMONG /SIGN XW XW/SYLLABLE LENGTHENER
1E140 NYIAKENG PUACHUE HMONG DIGIT /ZERO/ONE/TWO/THREE/FOUR/FIVE/SIX/SEVEN/EIGHT/NINE
1E14E NYIAKENG PUACHUE HMONG /LOGOGRAM NYAJ/CIRCLED CA
1E290 TOTO LETTER /PA/BA/TA/DA/KA/GA/MA/NA/NGA/SA/CHA/YA/WA/JA/HA/RA/LA/I/BREATHY I/IU/BREATHY IU/U
1E2A6 TOTO LETTER /E/BREATHY E/EO/BREATHY EO/O/AE/BREATHY AE/A
1E2AE /TOTO SIGN RISING TONE
1E2C0 WANCHO LETTER /AA/A/BA/CA/DA/GA/YA/PHA/LA/NA/PA/TA/THA/FA/SA/SHA/JA/ZA/WA/VA/KA/O/AU/RA/MA
1E2D9 WANCHO LETTER /KHA/HA/E/I/NGA/U/LLHA/TSA/TRA/ONG/AANG/ANG/ING/ON/EN/AAN/NYA/UEN/YIH
1E2EC WANCHO TONE /TUP/TUPNI/KOI/KOINI
1E2F0 WANCHO DIGIT /ZERO/ONE/TWO/THREE/FOUR/FIVE/SIX/SEVEN/EIGHT/NINE
1E2FF /WANCHO NGUN SIGN
1E7E0 ETHIOPIC SYLLABLE /HHYA/HHYU/HHYI/HHYAA/HHYEE/HHYE/HHYO
1E7E8 ETHIOPIC SYLLABLE /GURAGE HHWA/HHWI/HHWEE/HHWE
1E7ED ETHIOPIC SYLLABLE GURAGE /MWI/MWEE
1E7F0 ETHIOPIC SYLLABLE GURAGE /QWI/QWEE/QWE/BWI/BWEE/KWI/KWEE/KWE/GWI/GWEE/GWE/FWI/FWEE/PWI/PWEE
1E800 MENDE KIKAKUI SYLLABLE /M001 KI/M002 KA/M003 KU/M065 KEE/M095 KE/M076 KOO/M048 KO/M179 KUA
1E808 MENDE KIKAKUI SYLLABLE /M004 WI/M005 WA/M006 WU/M126 WEE/M118 WE/M114 WOO/M045 WO/M194 WUI
1E810 MENDE KIKAKUI SYLLABLE /M143 WEI/M061 WVI/M049 WVA/M139 WVE/M007 MIN/M008 MAN/M009 MUN
1E817 MENDE KIKAKUI SYLLABLE /M059 MEN/M094 MON/M154 MUAN/M189 MUEN/M010 BI/M011 BA/M012 BU
1E81E MENDE KIKAKUI SYLLABLE /M150 BEE/M097 BE/M103 BOO/M138 BO/M013 I/M014 A/M015 U/M163 EE/M100 E
1E827 MENDE KIKAKUI SYLLABLE /M165 OO/M147 O/M137 EI/M131 IN/M135 IN/M195 AN/M178 EN/M019 SI
1E82F MENDE KIKAKUI SYLLABLE /M020 SA/M021 SU/M162 SEE/M116 SE/M136 SOO/M079 SO/M196 SIA/M025 LI
1E837 MENDE KIKAKUI SYLLABLE /M026 LA/M027 LU/M084 LEE/M073 LE/M054 LOO/M153 LO/M110 LONG LE
1E83E MENDE KIKAKUI SYLLABLE /M016 DI/M017 DA/M018 DU/M089 DEE/M180 DOO/M181 DO/M022 TI/M023 TA
1E846 MENDE KIKAKUI SYLLABLE /M024 TU/M091 TEE/M055 TE/M104 TOO/M069 TO/M028 JI/M029 JA/M030 JU
1E84E MENDE KIKAKUI SYLLABLE /M157 JEE/M113 JE/M160 JOO/M063 JO/M175 LONG JO/M031 YI/M032 YA
1E855 MENDE KIKAKUI SYLLABLE /M033 YU/M109 YEE/M080 YE/M141 YOO/M121 YO/M034 FI/M035 FA/M036 FU
1E85D MENDE KIKAKUI SYLLABLE /M078 FEE/M075 FE/M133 FOO/M088 FO/M197 FUA/M101 FAN/M037 NIN/M038 NAN
1E865 MENDE KIKAKUI SYLLABLE /M039 NUN/M117 NEN/M169 NON/M176 HI/M041 HA/M186 HU/M040 HEE/M096 HE
1E86D MENDE KIKAKUI SYLLABLE /M042 HOO/M140 HO/M083 HEEI/M128 HOOU/M053 HIN/M130 HAN/M087 HUN
1E874 MENDE KIKAKUI SYLLABLE /M052 HEN/M193 HON/M046 HUAN/M090 NGGI/M043 NGGA/M082 NGGU/M115 NGGEE
1E87B MENDE KIKAKUI SYLLABLE /M146 NGGE/M156 NGGOO/M120 NGGO/M159 NGGAA/M127 NGGUA/M086 LONG NGGE
1E881 MENDE KIKAKUI SYLLABLE /M106 LONG NGGOO/M183 LONG NGGO/M155 GI/M111 GA/M168 GU/M190 GEE
1E887 MENDE KIKAKUI SYLLABLE /M166 GUEI/M167 GUAN/M184 NGEN/M057 NGON/M177 NGUAN/M068 PI/M099 PA
1E88E MENDE KIKAKUI SYLLABLE /M050 PU/M081 PEE/M051 PE/M102 POO/M066 PO/M145 MBI/M062 MBA/M122 MBU
1E896 MENDE KIKAKUI SYLLABLE /M047 MBEE/M188 MBEE/M072 MBE/M172 MBOO/M174 MBO/M187 MBUU
1E89C MENDE KIKAKUI SYLLABLE /M161 LONG MBE/M105 LONG MBOO/M142 LONG MBO/M132 KPI/M092 KPA/M074 KPU
1E8A2 MENDE KIKAKUI SYLLABLE /M044 KPEE/M108 KPE/M112 KPOO/M158 KPO/M124 GBI/M056 GBA/M148 GBU
1E8A9 MENDE KIKAKUI SYLLABLE /M093 GBEE/M107 GBE/M071 GBOO/M070 GBO/M171 RA/M123 NDI/M129 NDA
1E8B0 MENDE KIKAKUI SYLLABLE /M125 NDU/M191 NDEE/M119 NDE/M067 NDOO/M064 NDO/M152 NJA/M192 NJU
1E8B7 MENDE KIKAKUI SYLLABLE /M149 NJEE/M134 NJOO/M182 VI/M185 VA/M151 VU/M173 VEE/M085 VE/M144 VOO
1E8BF MENDE KIKAKUI SYLLABLE /M077 VO/M164 NYIN/M058 NYAN/M170 NYUN/M098 NYEN/M060 NYON
1E8C7 MENDE KIKAKUI DIGIT /ONE/TWO/THREE/FOUR/FIVE/SIX/SEVEN/EIGHT/NINE
1E8D0 MENDE KIKAKUI COMBINING NUMBER /TEENS/TENS/HUNDREDS/THOUSANDS/TEN THOUSANDS/HUNDRED THOUSANDS
1E8D6 /MENDE KIKAKUI COMBINING NUMBER MILLIONS
1E900 ADLAM CAPITAL LETTER /ALIF/DAALI/LAAM/MIIM/BA/SINNYIIYHE/PE/BHE/RA/E/FA/I/O/DHA/YHE/WAW/NUN
1E911 ADLAM CAPITAL LETTER /KAF/YA/U/JIIM/CHI/HA/QAAF/GA/NYA/TU/NHA/VA/KHA/GBE/ZAL/KPO/SHA
1E922 ADLAM SMALL LETTER /ALIF/DAALI/LAAM/MIIM/BA/SINNYIIYHE/PE/BHE/RA/E/FA/I/O/DHA/YHE/WAW/NUN/KAF
1E934 ADLAM SMALL LETTER /YA/U/JIIM/CHI/HA/QAAF/GA/NYA/TU/NHA/VA/KHA/GBE/ZAL/KPO/SHA
1E944 ADLAM /ALIF LENGTHENER/VOWEL LENGTHENER/GEMINATION MARK/HAMZA/CONSONANT MODIFIER
1E949 ADLAM /GEMINATE CONSONANT MODIFIER/NUKTA/NASALIZATION MARK
1E950 ADLAM DIGIT /ZERO/ONE/TWO/THREE/FOUR/FIVE/SIX/SEVEN/EIGHT/NINE
1E95E ADLAM INITIAL /EXCLAMATION MARK/QUESTION MARK
1EC71 INDIC SIYAQ NUMBER /ONE/TWO/THREE/FOUR/FIVE/SIX/SEVEN/EIGHT/NINE/TEN/TWENTY/THIRTY/FORTY
1EC7E INDIC SIYAQ NUMBER /FIFTY/SIXTY/SEVENTY/EIGHTY/NINETY/ONE HUNDRED/TWO HUNDRED/THREE HUNDRED
1EC86 INDIC SIYAQ NUMBER /FOUR HUNDRED/FIVE HUNDRED/SIX HUNDRED/SEVEN HUNDRED/EIGHT HUNDRED
1EC8B INDIC SIYAQ NUMBER /NINE HUNDRED/ONE THOUSAND/TWO THOUSAND/THREE THOUSAND/FOUR THOUSAND
1EC90 INDIC SIYAQ NUMBER /FIVE THOUSAND/SIX THOUSAND/SEVEN THOUSAND/EIGHT THOUSAND/NINE THOUSAND
1EC95 INDIC SIYAQ NUMBER /TEN THOUSAND/TWENTY THOUSAND/THIRTY THOUSAND/FORTY THOUSAND
1EC99 INDIC SIYAQ NUMBER /FIFTY THOUSAND/SIXTY THOUSAND/SEVENTY THOUSAND/EIGHTY THOUSAND
1EC9D INDIC SIYAQ NUMBER /NINETY THOUSAND/LAKH/LAKHAN
1ECA0 INDIC SIYAQ /LAKH MARK/NUMBER KAROR/NUMBER KARORAN
1ECA3 INDIC SIYAQ NUMBER PREFIXED /ONE/TWO/THREE/FOUR/FIVE/SIX/SEVEN/EIGHT/NINE
1ECAC INDIC SIYAQ /PLACEHOLDER/FRACTION ONE QUARTER/FRACTION ONE HALF/FRACTION THREE QUARTERS
1ECB0 /INDIC SIYAQ RUPEE MARK
1ECB1 INDIC SIYAQ NUMBER ALTERNATE /ONE/TWO/TEN THOUSAND
1ECB4 /INDIC SIYAQ ALTERNATE LAKH MARK
1ED01 OTTOMAN SIYAQ NUMBER /ONE/TWO/THREE/FOUR/FIVE/SIX/SEVEN/EIGHT/NINE/TEN/TWENTY/THIRTY/FORTY
1ED0E OTTOMAN SIYAQ NUMBER /FIFTY/SIXTY/SEVENTY/EIGHTY/NINETY/ONE HUNDRED/TWO HUNDRED/THREE HUNDRED
1ED16 OTTOMAN SIYAQ NUMBER /FOUR HUNDRED/FIVE HUNDRED/SIX HUNDRED/SEVEN HUNDRED/EIGHT HUNDRED
1ED1B OTTOMAN SIYAQ NUMBER /NINE HUNDRED/ONE THOUSAND/TWO THOUSAND/THREE THOUSAND/FOUR THOUSAND
1ED20 OTTOMAN SIYAQ NUMBER /FIVE THOUSAND/SIX THOUSAND/SEVEN THOUSAND/EIGHT THOUSAND/NINE THOUSAND
1ED25 OTTOMAN SIYAQ NUMBER /TEN THOUSAND/TWENTY THOUSAND/THIRTY THOUSAND/FORTY THOUSAND
1ED29 OTTOMAN SIYAQ NUMBER /FIFTY THOUSAND/SIXTY THOUSAND/SEVENTY THOUSAND/EIGHTY THOUSAND
1ED2D OTTOMAN SIYAQ /NUMBER NINETY THOUSAND/MARRATAN
1ED2F OTTOMAN SIYAQ ALTERNATE NUMBER /TWO/THREE/FOUR/FIVE/SIX/SEVEN/EIGHT/NINE/TEN/FOUR HUNDRED
1ED39 OTTOMAN SIYAQ ALTERNATE NUMBER /SIX HUNDRED/TWO THOUSAND/TEN THOUSAND
1ED3C OTTOMAN SIYAQ FRACTION ONE /HALF/SIXTH
1EE00 ARABIC MATHEMATICAL /ALEF/BEH/JEEM/DAL
1EE05 ARABIC MATHEMATICAL /WAW/ZAIN/HAH/TAH/YEH/KAF/LAM/MEEM/NOON/SEEN/AIN/FEH/SAD/QAF/REH/SHEEN
1EE15 ARABIC MATHEMATICAL /TEH/THEH/KHAH/THAL/DAD/ZAH/GHAIN
1EE1C ARABIC MATHEMATICAL DOTLESS /BEH/NOON/FEH/QAF
1EE21 ARABIC MATHEMATICAL INITIAL /BEH/JEEM
1EE24 /ARABIC MATHEMATICAL INITIAL HEH
1EE27 /ARABIC MATHEMATICAL INITIAL HAH
1EE29 ARABIC MATHEMATICAL INITIAL /YEH/KAF/LAM/MEEM/NOON/SEEN/AIN/FEH/SAD/QAF
1EE34 ARABIC MATHEMATICAL INITIAL /SHEEN/TEH/THEH/KHAH
1EE39 /ARABIC MATHEMATICAL INITIAL DAD
1EE3B /ARABIC MATHEMATICAL INITIAL GHAIN
1EE42 /ARABIC MATHEMATICAL TAILED JEEM
1EE47 /ARABIC MATHEMATICAL TAILED HAH
1EE49 /ARABIC MATHEMATICAL TAILED YEH
1EE4B /ARABIC MATHEMATICAL TAILED LAM
1EE4D ARABIC MATHEMATICAL TAILED /NOON/SEEN/AIN
1EE51 ARABIC MATHEMATICAL TAILED /SAD/QAF
1EE54 /ARABIC MATHEMATICAL TAILED SHEEN
1EE57 /ARABIC MATHEMATICAL TAILED KHAH
1EE59 /ARABIC MATHEMATICAL TAILED DAD
1EE5B /ARABIC MATHEMATICAL TAILED GHAIN
1EE5D /ARABIC MATHEMATICAL TAILED DOTLESS NOON
1EE5F /ARABIC MATHEMATICAL TAILED DOTLESS QAF
1EE61 ARABIC MATHEMATICAL STRETCHED /BEH/JEEM
1EE64 /ARABIC MATHEMATICAL STRETCHED HEH
1EE67 ARABIC MATHEMATICAL STRETCHED /HAH/TAH/YEH/KAF
1EE6C ARABIC MATHEMATICAL STRETCHED /MEEM/NOON/SEEN/AIN/FEH/SAD/QAF
1EE74 ARABIC MATHEMATICAL STRETCHED /SHEEN/TEH/THEH/KHAH
1EE79 ARABIC MATHEMATICAL STRETCHED /DAD/ZAH/GHAIN/DOTLESS BEH
1EE7E /ARABIC MATHEMATICAL STRETCHED DOTLESS FEH
1EE80 ARABIC MATHEMATICAL LOOPED /ALEF/BEH/JEEM/DAL/HEH/WAW/ZAIN/HAH/TAH/YEH
1EE8B ARABIC MATHEMATICAL LOOPED /LAM/MEEM/NOON/SEEN/AIN/FEH/SAD/QAF/REH/SHEEN/TEH/THEH/KHAH/THAL
1EE99 ARABIC MATHEMATICAL LOOPED /DAD/ZAH/GHAIN
1EEA1 ARABIC MATHEMATICAL DOUBLE-STRUCK /BEH/JEEM/DAL
1EEA5 ARABIC MATHEMATICAL DOUBLE-STRUCK /WAW/ZAIN/HAH/TAH/YEH
1EEAB ARABIC MATHEMATICAL DOUBLE-STRUCK /LAM/MEEM/NOON/SEEN/AIN/FEH/SAD/QAF/REH/SHEEN/TEH/THEH/KHAH
1EEB8 ARABIC MATHEMATICAL DOUBLE-STRUCK /THAL/DAD/ZAH/GHAIN
1EEF0 ARABIC MATHEMATICAL OPERATOR /MEEM WITH HAH WITH TATWEEL/HAH WITH DAL"

end NoteSchema.Text.CharName
